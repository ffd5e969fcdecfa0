import Mathlib.Algebra.Ring.Int.Defs
import Colloquy.Flow.Path

/-!
# Reading flow keys back

Whatever ids a path is made of, the segments of its key hold no separator. So a key is read back as the
key that it is, unless the name of the dialog brings a colon of its own along: then every key of the
dialog has too many of them.
-/

namespace Colloquy

theorem Value.tooLong_pow {m : Nat} (h : Number.maxIntDigits ≤ m) : tooLong (10 ^ m) = true := by
  have hlimit : writtenLimit ≤ 10 ^ m := by
    unfold writtenLimit
    generalize Number.maxIntDigits = k at h
    exact Nat.pow_le_pow_right (Nat.succ_pos 9) h
  rw [tooLong, decide_eq_true_iff, Int.natAbs_pow]
  exact hlimit

namespace Text

variable {α : Type} {p : α → Bool}

theorem splitWhen_ne_nil (xs : List α) : splitWhen p xs ≠ [] := by
  induction xs with
  | nil => simp [splitWhen]
  | cons x xs ih =>
    rw [splitWhen, List.foldr_cons, ← splitWhen]
    split
    · split <;> simp
    · split <;> simp

theorem splitWhen_cons (x : α) (xs : List α) :
    splitWhen p (x :: xs) =
      if p x then [] :: splitWhen p xs else (splitWhen p xs).modifyHead (x :: ·) := by
  rw [splitWhen, List.foldr_cons, ← splitWhen]
  cases h : splitWhen p xs with
  | nil => exact absurd h (splitWhen_ne_nil xs)
  | cons piece rest =>
    dsimp only
    split <;> rfl

theorem splitWhen_of_free {xs : List α} (h : ∀ x ∈ xs, p x = false) : splitWhen p xs = [xs] := by
  induction xs with
  | nil => rfl
  | cons x xs ih =>
    rw [splitWhen_cons, h x List.mem_cons_self, ih fun y hy => h y (List.mem_cons_of_mem x hy)]
    rfl

theorem splitWhen_append {xs : List α} (h : ∀ x ∈ xs, p x = false) {c : α} (hc : p c = true) (ys : List α) :
    splitWhen p (xs ++ c :: ys) = xs :: splitWhen p ys := by
  induction xs with
  | nil => rw [List.nil_append, splitWhen_cons, if_pos hc]
  | cons x xs ih =>
    rw [List.cons_append, splitWhen_cons, h x List.mem_cons_self,
      ih fun y hy => h y (List.mem_cons_of_mem x hy)]
    rfl

theorem splitWhen_intercalate {parts : List (List α)} (hne : parts ≠ [])
    (h : ∀ part ∈ parts, ∀ x ∈ part, p x = false) {c : α} (hc : p c = true) :
    splitWhen p ([c].intercalate parts) = parts := by
  induction parts with
  | nil => exact absurd rfl hne
  | cons part rest ih =>
    have hpart := h part List.mem_cons_self
    cases rest with
    | nil =>
      rw [List.intercalate_singleton]
      exact splitWhen_of_free hpart
    | cons next rest =>
      rw [List.intercalate_cons_cons, List.append_assoc, List.singleton_append, splitWhen_append hpart hc,
        ih (by simp) fun part hmem => h part (List.mem_cons_of_mem _ hmem)]

theorem free_of_mem_splitWhen {xs piece : List α} (h : piece ∈ splitWhen p xs) : ∀ x ∈ piece, p x = false := by
  induction xs generalizing piece with
  | nil =>
    obtain rfl : piece = [] := by simpa [splitWhen] using h
    nofun
  | cons x xs ih =>
    rw [splitWhen_cons] at h
    split at h
    · rcases List.mem_cons.mp h with rfl | h
      · nofun
      · exact ih h
    · rename_i hx
      cases hs : splitWhen p xs with
      | nil => exact absurd hs (splitWhen_ne_nil xs)
      | cons first rest =>
        rw [hs] at h ih
        rcases List.mem_cons.mp h with rfl | h
        · exact List.forall_mem_cons.mpr ⟨by simpa using hx, ih List.mem_cons_self⟩
        · exact ih (List.mem_cons_of_mem _ h)

private theorem length_splitWhen (xs : List α) : (splitWhen p xs).length = xs.countP p + 1 := by
  induction xs with
  | nil => rfl
  | cons x xs ih =>
    rw [splitWhen_cons, List.countP_cons]
    split
    · rw [List.length_cons, ih]
    · rw [List.length_modifyHead, ih, Nat.add_zero]

end Text

namespace FlowPath

/-- A path that is made of names without separators. -/
def Plain (path : FlowPath) : Prop := ∀ t ∈ path, ∃ s, t = .name s ∧ FlowKey.isSegment s = true

private theorem dropFinalBreak_cases (cs : List Char) :
    dropFinalBreak cs = cs ∨ cs = dropFinalBreak cs ++ ['\n'] := by
  unfold dropFinalBreak
  split
  · rename_i h
    obtain ⟨front, rfl⟩ := List.getLast?_eq_some_iff.mp (eq_of_beq h)
    simp
  · exact .inl rfl

private theorem dropFinalBreak_of_free {cs : List Char} (h : ∀ c ∈ cs, isReserved c = false) :
    dropFinalBreak cs = cs := by
  unfold dropFinalBreak
  rw [if_neg]
  intro hlast
  have hmem := List.mem_of_getLast? (eq_of_beq hlast)
  exact absurd (h '\n' hmem) (by decide)

private theorem dropFinalBreak_append (cs : List Char) : dropFinalBreak (cs ++ ['\n']) = cs := by
  simp [dropFinalBreak]

private theorem isId_of_relative {s : String} (h : s.toList.head? ≠ some '#') : isId s = true ↔
    dropFinalBreak s.toList ≠ [] ∧ ∀ c ∈ dropFinalBreak s.toList, isReserved c = false := by
  have hhead : (dropFinalBreak s.toList).head? ≠ some '#' := by
    rcases dropFinalBreak_cases s.toList with heq | heq
    · rwa [heq]
    · intro hc
      rw [heq, List.head?_append, hc] at h
      exact h rfl
  unfold isId
  dsimp only
  split
  · rename_i heq
    rw [heq] at hhead
    exact absurd rfl hhead
  · simp

end FlowPath

namespace FlowKey

open FlowPath

private theorem isSegment_iff (s : String) : isSegment s = true ↔
    ∃ cs, cs ≠ [] ∧ (∀ c ∈ cs, isReserved c = false) ∧ (s.toList = cs ∨ s.toList = cs ++ ['\n']) := by
  unfold isSegment isAbsolute
  constructor
  · intro h
    obtain ⟨hid, habs⟩ : _ ∧ s.toList.head? ≠ some '#' := by simpa using h
    obtain ⟨hne, hfree⟩ := (isId_of_relative habs).mp hid
    exact ⟨_, hne, hfree, (dropFinalBreak_cases s.toList).imp_left Eq.symm⟩
  · rintro ⟨cs, hne, hfree, hs⟩
    have hhead : cs.head? ≠ some '#' := fun hc =>
      absurd (hfree '#' (List.mem_of_mem_head? hc)) (by decide)
    have hdrop : dropFinalBreak s.toList = cs := by
      rcases hs with hs | hs
      · rw [hs, dropFinalBreak_of_free hfree]
      · rw [hs, dropFinalBreak_append]
    have habs : s.toList.head? ≠ some '#' := by
      rcases hs with hs | hs
      · rwa [hs]
      · cases cs with
        | nil => exact absurd rfl hne
        | cons c cs => rwa [hs]
    rw [(isId_of_relative habs).mpr (by rw [hdrop]; exact ⟨hne, hfree⟩)]
    simpa using habs

private theorem isSegment_of_absolute {s : String} (hid : isId s = true) (habs : isAbsolute s = true) :
    isSegment (String.ofList (s.toList.drop 1)) = true := by
  rw [isSegment_iff, String.toList_ofList]
  cases hs : s.toList with
  | nil => simp [isAbsolute, hs] at habs
  | cons first rest =>
    obtain rfl : first = '#' := by simpa [isAbsolute, hs] using habs
    unfold isId at hid
    rw [hs] at hid
    rcases dropFinalBreak_cases ('#' :: rest) with heq | heq
    · simp only [heq] at hid
      refine ⟨rest, ?_, ?_, .inl rfl⟩
      · rintro rfl
        cases hid
      · simpa using (Bool.and_eq_true_iff.mp hid).2
    · cases hcore : dropFinalBreak ('#' :: rest) with
      | nil => simp [hcore] at heq
      | cons c cs =>
        rw [hcore] at heq hid
        obtain ⟨rfl, rfl⟩ : '#' = c ∧ rest = cs ++ ['\n'] := by simpa using heq
        refine ⟨cs, ?_, ?_, .inr rfl⟩
        · rintro rfl
          cases hid
        · simpa using (Bool.and_eq_true_iff.mp hid).2

theorem isSegment_intText (n : Int) : isSegment (Number.intText n) = true := by
  have hdigit {c : Char} (hc : c ∈ Number.digits n.natAbs) : isReserved c = false := by
    have hd : c.isDigit = true := Nat.isDigit_of_mem_toDigits (by decide) (by decide) hc
    rw [Bool.eq_false_iff]
    intro hr
    simp only [isReserved, Bool.or_eq_true, beq_iff_eq] at hr
    rcases hr with ((((rfl | rfl) | rfl) | rfl) | rfl) | rfl <;> cases hd
  have hne : Number.digits n.natAbs ≠ [] := Nat.toDigits_ne_nil
  rw [isSegment_iff]
  unfold Number.intText
  split
  · refine ⟨'-' :: Number.digits n.natAbs, by simp, ?_, .inl (by simp)⟩
    intro c hc
    rcases List.mem_cons.mp hc with rfl | hc
    · decide
    · exact hdigit hc
  · exact ⟨_, hne, fun c => hdigit, .inl (by simp)⟩

theorem not_mem_of_isSegment {s : String} (h : isSegment s = true) {c : Char} (hc : isReserved c = true)
    (hbreak : c ≠ '\n') : c ∉ s.toList := by
  obtain ⟨cs, -, hfree, hs⟩ := (isSegment_iff s).mp h
  intro hmem
  have hcs : c ∈ cs := by
    rcases hs with hs | hs
    · rwa [hs] at hmem
    · simpa [hs, hbreak] using hmem
  rw [hfree c hcs] at hc
  cases hc

private theorem isSegment_of_extend {path : FlowPath} (h : ∀ t ∈ path, isSegment t.text = true) {id : Value}
    {segment : Segment} (hid : readId id = .ok segment) :
    ∀ t ∈ extend (fun s => s) path segment, isSegment t.text = true := by
  cases segment with
  | index n =>
    intro t ht
    rcases List.mem_append.mp ht with ht | ht
    · exact h t ht
    · obtain rfl := List.mem_singleton.mp ht
      exact isSegment_intText n
  | name s =>
    have hs : isId s = true := by
      cases id with
      | str other =>
        cases hother : isId other with
        | true =>
          obtain rfl : other = s := by simpa [readId, hother] using hid
          exact hother
        | false => simp [readId, hother] at hid
      | _ => cases hid
    intro t ht
    rw [extend] at ht
    cases habs : isAbsolute s with
    | true =>
      rw [if_pos habs] at ht
      obtain rfl := List.mem_singleton.mp ht
      exact isSegment_of_absolute hs habs
    | false =>
      rw [if_neg (by simp [habs])] at ht
      rcases List.mem_append.mp ht with ht | ht
      · exact h t ht
      · obtain rfl := List.mem_singleton.mp ht
        simp [isSegment, Segment.text, hs, habs]

theorem isSegment_of_appendIds {ids : List Value} {path own : FlowPath}
    (h : ∀ t ∈ path, isSegment t.text = true) (hids : appendIds (fun s => s) path ids = .ok own) :
    ∀ t ∈ own, isSegment t.text = true := by
  induction ids generalizing path with
  | nil =>
    obtain rfl := Except.ok.inj hids
    exact h
  | cons id rest ih =>
    unfold appendIds at hids
    split at hids
    · rename_i hread
      exact ih (isSegment_of_extend h hread) hids
    · cases hids

private theorem extend_ne_nil (path : FlowPath) (segment : Segment) : extend (fun s => s) path segment ≠ [] := by
  cases segment with
  | index n => simp [extend]
  | name s =>
    rw [extend]
    split <;> simp

theorem appendIds_ne_nil {ids : List Value} {path own : FlowPath} (hids : ids ≠ [])
    (h : appendIds (fun s => s) path ids = .ok own) : own ≠ [] := by
  induction ids generalizing path with
  | nil => exact absurd rfl hids
  | cons id rest ih =>
    unfold appendIds at h
    split at h
    · rename_i segment hread
      cases rest with
      | nil =>
        obtain rfl := Except.ok.inj h
        exact extend_ne_nil path segment
      | cons next rest => exact ih (by simp) h
    · cases h

private theorem mapM_text? (path : FlowPath) :
    path.mapM Segment.text? =
      if path.any Segment.tooLong then .error (.fault .badValue) else .ok (path.map Segment.text) := by
  induction path with
  | nil => rfl
  | cons t rest ih =>
    rw [List.mapM_cons, ih, List.any_cons]
    cases ht : t.tooLong with
    | true =>
      have htext : t.text? = .error (.fault .badValue) := if_pos ht
      rw [htext]
      rfl
    | false =>
      have htext : t.text? = .ok t.text := if_neg (by simp [ht])
      rw [htext]
      cases rest.any Segment.tooLong <;> rfl

theorem render_eq (dialog : String) (path : FlowPath) :
    render dialog path =
      if path.any Segment.tooLong then .error (.fault .badValue) else .ok (joined dialog (path.map Segment.text)) := by
  rw [render, mapM_text?]
  split <;> rfl

theorem render_eq_ok {dialog key : String} {path : FlowPath} :
    render dialog path = .ok key ↔
      path.any Segment.tooLong = false ∧ key = joined dialog (path.map Segment.text) := by
  rw [render_eq]
  cases path.any Segment.tooLong with
  | true => simp
  | false => simp [eq_comm]

theorem ofIds_eq_ok_iff {dialog key : String} {ids : List Value} :
    ofIds dialog ids = .ok key ↔
      ids ≠ [] ∧ ∃ path, appendIds (fun s => s) [] ids = .ok path ∧ render dialog path = .ok key := by
  unfold ofIds
  cases ids with
  | nil => simp
  | cons id rest =>
    rw [if_neg (by simp)]
    cases appendIds (fun s => s) [] (id :: rest) <;> simp [Except.bind]

theorem ofIds_eq_ok {dialog key : String} {ids : List Value} (h : ofIds dialog ids = .ok key) :
    ∃ path : FlowPath, path ≠ [] ∧ (∀ t ∈ path, isSegment t.text = true) ∧
      key = joined dialog (path.map Segment.text) := by
  obtain ⟨hids, path, hpath, hrender⟩ := ofIds_eq_ok_iff.mp h
  exact ⟨path, appendIds_ne_nil hids hpath, isSegment_of_appendIds (by simp) hpath, (render_eq_ok.mp hrender).2⟩

private theorem toList_joined (dialog : String) (path : FlowPath) :
    (joined dialog (path.map Segment.text)).toList =
      dialog.toList ++ ':' :: ['.'].intercalate (path.map fun t => t.text.toList) := by
  simp [joined, String.toList_append, String.toList_intercalate, List.map_map, Function.comp_def]

theorem checkSegments_of_all (source : Value) {segments : List String}
    (h : ∀ s ∈ segments, isSegment s = true) : checkSegments source segments = .ok () := by
  induction segments with
  | nil => rfl
  | cons s rest ih =>
    rw [checkSegments, if_pos (h s List.mem_cons_self)]
    exact ih fun t ht => h t (List.mem_cons_of_mem s ht)

theorem mem_intercalate {c separator : Char} {parts : List (List Char)}
    (h : c ∈ [separator].intercalate parts) : c = separator ∨ ∃ part ∈ parts, c ∈ part := by
  induction parts with
  | nil => simp at h
  | cons part rest ih =>
    cases rest with
    | nil => exact .inr ⟨part, List.mem_cons_self, by simpa using h⟩
    | cons next rest =>
      rw [List.intercalate_cons_cons, List.mem_append, List.mem_append, List.mem_singleton] at h
      rcases h with (h | h) | h
      · exact .inr ⟨part, List.mem_cons_self, h⟩
      · exact .inl h
      · exact (ih h).imp_right fun ⟨other, hmem, hc⟩ => ⟨other, List.mem_cons_of_mem _ hmem, hc⟩

theorem ofText_of_ofIds {dialog key : String} {ids : List Value} (hname : ':' ∉ dialog.toList)
    (h : ofIds dialog ids = .ok key) : ofText dialog key = .ok key := by
  obtain ⟨path, hne, hpath, rfl⟩ := ofIds_eq_ok h
  let texts := path.map fun t => t.text.toList
  have hfree {c : Char} (hc : isReserved c = true) (hbreak : c ≠ '\n') (part : List Char) (hpart : part ∈ texts)
      (x : Char) (hx : x ∈ part) : (x == c) = false := by
    obtain ⟨t, ht, rfl⟩ := List.mem_map.mp hpart
    rw [beq_eq_false_iff_ne]
    rintro rfl
    exact not_mem_of_isSegment (hpath t ht) hc hbreak hx
  have hrelative : ∀ c ∈ ['.'].intercalate texts, (c == ':') = false := by
    intro c hc
    rcases mem_intercalate hc with rfl | ⟨part, hpart, hc⟩
    · rfl
    · exact hfree rfl (by decide) part hpart c hc
  have hqualifier : ∀ c ∈ dialog.toList, (c == ':') = false := by
    intro c hc
    rw [beq_eq_false_iff_ne]
    rintro rfl
    exact hname hc
  have hcolon : pieces ':' (joined dialog (path.map Segment.text)) = [dialog, String.ofList (['.'].intercalate texts)] := by
    unfold pieces
    rw [toList_joined, Text.splitWhen_append hqualifier rfl, Text.splitWhen_of_free hrelative]
    simp [texts]
  have hdot : pieces '.' (String.ofList (['.'].intercalate texts)) = path.map Segment.text := by
    unfold pieces
    rw [String.toList_ofList, Text.splitWhen_intercalate (by simpa [texts] using hne) (hfree rfl (by decide)) rfl]
    simp [texts]
  have hkey : dialog ++ ":" ++ String.ofList (['.'].intercalate texts) = joined dialog (path.map Segment.text) := by
    rw [← String.toList_inj, toList_joined]
    simp [String.toList_append, texts]
  unfold ofText
  rw [hcolon]
  dsimp only
  rw [if_pos (by simp), hdot, checkSegments_of_all _ (by simpa using hpath), Except.map, hkey]

private theorem ofText_several {dialog : String} (hname : ':' ∈ dialog.toList) (relative : String) :
    ofText dialog (dialog ++ ":" ++ relative) = .error (.severalColons (.str (dialog ++ ":" ++ relative))) := by
  have hlength : 3 ≤ (pieces ':' (dialog ++ ":" ++ relative)).length := by
    have hcount : 0 < dialog.toList.countP (· == ':') := List.countP_pos_iff.mpr ⟨':', hname, rfl⟩
    have htext : (dialog ++ ":" ++ relative).toList = dialog.toList ++ ':' :: relative.toList := by
      simp [String.toList_append]
    unfold pieces
    rw [List.length_map, Text.length_splitWhen, htext, List.countP_append, List.countP_cons]
    simp only [beq_self_eq_true, if_true]
    omega
  unfold ofText
  match hpieces : pieces ':' (dialog ++ ":" ++ relative) with
  | [] | [_] | [_, _] => simp [hpieces] at hlength
  | _ :: _ :: _ :: _ => rfl

theorem ofText_of_colon {dialog key : String} {ids : List Value} (hname : ':' ∈ dialog.toList)
    (h : ofIds dialog ids = .ok key) : ofText dialog key = .error (.severalColons (.str key)) := by
  obtain ⟨path, -, -, rfl⟩ := ofIds_eq_ok h
  exact ofText_several hname _

private theorem ofText_own {dialog relative key : String} (hrelative : ':' ∉ relative.toList)
    (h : ofText dialog (dialog ++ ":" ++ relative) = .ok key) : key = dialog ++ ":" ++ relative := by
  have hfree (s : String) (hs : ':' ∉ s.toList) : ∀ c ∈ s.toList, (c == ':') = false := by
    intro c hc
    rw [beq_eq_false_iff_ne]
    rintro rfl
    exact hs hc
  by_cases hname : ':' ∈ dialog.toList
  · rw [ofText_several hname] at h
    cases h
  · have hpieces : pieces ':' (dialog ++ ":" ++ relative) = [dialog, relative] := by
      have htext : (dialog ++ ":" ++ relative).toList = dialog.toList ++ ':' :: relative.toList := by
        simp [String.toList_append]
      unfold pieces
      rw [htext, Text.splitWhen_append (hfree dialog hname) rfl, Text.splitWhen_of_free (hfree relative hrelative)]
      simp
    unfold ofText at h
    rw [hpieces] at h
    dsimp only at h
    rw [if_pos (by simp)] at h
    cases hcheck : checkSegments (.str (dialog ++ ":" ++ relative)) (pieces '.' relative) with
    | error e =>
      rw [hcheck] at h
      cases h
    | ok =>
      rw [hcheck] at h
      exact (Except.ok.inj h).symm

theorem ofText_of_ofValue {dialog key other : String} {path : Value} (h : ofValue dialog path = .ok key)
    (hback : ofText dialog key = .ok other) : other = key := by
  have hids {ids : List Value} (h : ofIds dialog ids = .ok key) : other = key := by
    by_cases hname : ':' ∈ dialog.toList
    · rw [ofText_of_colon hname h] at hback
      cases hback
    · exact (Except.ok.inj ((ofText_of_ofIds hname h).symm.trans hback)).symm
  have htext {s : String} (h : ofText dialog s = .ok key) : other = key := by
    have hown {relative : String} (hmem : relative ∈ pieces ':' s)
        (h : (checkSegments (.str s) (pieces '.' relative)).map (fun _ => dialog ++ ":" ++ relative) = .ok key) :
        other = key := by
      obtain ⟨piece, hpiece, rfl⟩ := List.mem_map.mp hmem
      have hrelative : ':' ∉ (String.ofList piece).toList := by
        rw [String.toList_ofList]
        exact fun hc => by simpa using Text.free_of_mem_splitWhen hpiece ':' hc
      cases hcheck : checkSegments (.str s) (pieces '.' (String.ofList piece)) with
      | error e =>
        rw [hcheck] at h
        cases h
      | ok =>
        rw [hcheck] at h
        obtain rfl := Except.ok.inj h
        exact ofText_own hrelative hback
    unfold ofText at h
    split at h
    · rename_i hpieces
      split at h
      · exact hown (by simp [hpieces]) h
      · cases h
    · rename_i hpieces
      exact hown (by simp [hpieces]) h
    · cases h
  unfold ofValue at h
  split at h
  · exact htext h
  · exact htext h
  · exact hids h
  · exact hids h
  · exact hids h
  · cases h

/-! ## Plain paths -/

theorem appendIds_of_plain {path : FlowPath} (h : path.Plain) (before : FlowPath) :
    appendIds (fun s => s) before (path.map Segment.toValue) = .ok (before ++ path) := by
  induction path generalizing before with
  | nil => simp [appendIds]
  | cons t rest ih =>
    obtain ⟨s, rfl, hs⟩ := h t List.mem_cons_self
    obtain ⟨hid, habs⟩ : isId s = true ∧ isAbsolute s = false := by simpa [isSegment] using hs
    have hrest := ih (fun u hu => h u (List.mem_cons_of_mem _ hu)) (before ++ [.name s])
    simpa [appendIds, Segment.toValue, readId, hid, extend, habs] using hrest

private theorem ofPath_of_plain {dialog key : String} {path : FlowPath} (h : path.Plain)
    (hkey : ofPath dialog path = .ok key) :
    path ≠ [] ∧ key = joined dialog (path.map Segment.text) := by
  obtain ⟨hne, own, hown, hrender⟩ := ofIds_eq_ok_iff.mp hkey
  obtain rfl : path = own := by simpa [appendIds_of_plain h] using hown
  exact ⟨by simpa using hne, (render_eq_ok.mp hrender).2⟩

private theorem intercalate_dot_inj {parts others : List (List Char)} (hne : parts ≠ []) (hne' : others ≠ [])
    (h : ∀ part ∈ parts, ∀ c ∈ part, (c == '.') = false) (h' : ∀ part ∈ others, ∀ c ∈ part, (c == '.') = false)
    (heq : ['.'].intercalate parts = ['.'].intercalate others) : parts = others := by
  rw [← Text.splitWhen_intercalate hne h (c := '.') rfl, heq, Text.splitWhen_intercalate hne' h' rfl]

theorem plain_inj {dialog key : String} {path other : FlowPath} (h : path.Plain) (h' : other.Plain)
    (hkey : ofPath dialog path = .ok key) (hkey' : ofPath dialog other = .ok key) : path = other := by
  obtain ⟨hne, rfl⟩ := ofPath_of_plain h hkey
  obtain ⟨hne', heq⟩ := ofPath_of_plain h' hkey'
  have hfree {path : FlowPath} (h : path.Plain) : ∀ part ∈ path.map fun t => t.text.toList, ∀ c ∈ part,
      (c == '.') = false := by
    intro part hpart c hc
    obtain ⟨t, ht, rfl⟩ := List.mem_map.mp hpart
    obtain ⟨s, rfl, hs⟩ := h t ht
    rw [beq_eq_false_iff_ne]
    rintro rfl
    exact not_mem_of_isSegment hs rfl (by decide) hc
  rw [← String.toList_inj, toList_joined, toList_joined] at heq
  have htexts := intercalate_dot_inj (by simpa using hne) (by simpa using hne') (hfree h) (hfree h')
    (List.cons.inj (List.append_cancel_left heq)).2
  have hnames {path : FlowPath} (h : path.Plain) :
      (path.map fun t => t.text.toList).map (fun cs => Segment.name (String.ofList cs)) = path := by
    rw [List.map_map, ← List.map_id path, List.map_map]
    refine List.map_congr_left fun t ht => ?_
    obtain ⟨s, rfl, -⟩ := h t ht
    simp [Segment.text]
  rw [← hnames h, htexts, hnames h']

end FlowKey

end Colloquy

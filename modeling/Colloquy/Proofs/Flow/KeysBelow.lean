import Colloquy.Proofs.Flow.Key

/-!
# Keys below a key

The key of a path that goes on after another one is that of the other path, a dot and further segments. A key that
is split into its segments is the key of the path that they make.
-/

namespace Colloquy

namespace Text

variable {α : Type}

theorem intercalate_splitWhen [BEq α] [LawfulBEq α] (c : α) (xs : List α) :
    [c].intercalate (splitWhen (· == c) xs) = xs := by
  induction xs with
  | nil => rfl
  | cons x xs ih =>
    rw [splitWhen_cons]
    cases hs : splitWhen (· == c) xs with
    | nil => exact absurd hs (splitWhen_ne_nil xs)
    | cons piece rest =>
      rw [hs] at ih
      split
      · rename_i hx
        rw [List.intercalate_cons_cons, ih, eq_of_beq hx]
        rfl
      · cases rest with
        | nil => simpa using ih
        | cons next rest =>
          rw [List.intercalate_cons_cons] at ih
          simp [List.intercalate_cons_cons, ← ih]

private theorem intercalate_append (separator : List α) {parts more : List (List α)} (hparts : parts ≠ [])
    (hmore : more ≠ []) :
    separator.intercalate (parts ++ more) = separator.intercalate parts ++ separator ++ separator.intercalate more := by
  induction parts with
  | nil => exact absurd rfl hparts
  | cons part rest ih =>
    cases rest with
    | nil =>
      obtain ⟨next, rest, rfl⟩ := List.exists_cons_of_ne_nil hmore
      rw [List.singleton_append, List.intercalate_cons_cons, List.intercalate_singleton]
    | cons next rest =>
      rw [List.cons_append, List.cons_append, List.intercalate_cons_cons, ← List.cons_append, ih (by simp),
        List.intercalate_cons_cons]
      simp

theorem splitWhen_append_cons {p : α → Bool} {c : α} (hc : p c = true) (xs ys : List α) :
    splitWhen p (xs ++ c :: ys) = splitWhen p xs ++ splitWhen p ys := by
  induction xs with
  | nil => rw [List.nil_append, splitWhen_cons, if_pos hc]; rfl
  | cons x xs ih =>
    rw [List.cons_append, splitWhen_cons, splitWhen_cons, ih]
    cases hs : splitWhen p xs with
    | nil => exact absurd hs (splitWhen_ne_nil xs)
    | cons piece rest => split <;> rfl

end Text

namespace FlowKey

open FlowPath

variable {dialog base key : String} {path more : FlowPath}

/-- A key is another one, or it goes on after it with a dot and further segments. -/
def Below (base key : String) : Prop :=
  key = base ∨ ∃ segments : List String, segments ≠ [] ∧ (∀ s ∈ segments, isSegment s = true) ∧
    key = base ++ "." ++ ".".intercalate segments

private theorem joined_append (dialog : String) {segments others : List String} (h : segments ≠ []) (h' : others ≠ []) :
    joined dialog (segments ++ others) = joined dialog segments ++ "." ++ ".".intercalate others := by
  rw [← String.toList_inj]
  simp [joined, String.toList_append, String.toList_intercalate, Text.intercalate_append, h, h']

private theorem appendIds_append (path : FlowPath) (ids further : List Value) :
    appendIds (fun s => s) path (ids ++ further) =
      (appendIds (fun s => s) path ids >>= fun own => appendIds (fun s => s) own further) := by
  induction ids generalizing path with
  | nil => rfl
  | cons id rest ih =>
    rw [List.cons_append, appendIds, appendIds]
    split
    · exact ih _
    · rfl

private theorem appendIds_plain_eq_ok {own : FlowPath} (hmore : more.Plain)
    (h : appendIds (fun s => s) [] ((path ++ more).map Segment.toValue) = .ok own) :
    ∃ front, appendIds (fun s => s) [] (path.map Segment.toValue) = .ok front ∧ own = front ++ more := by
  rw [List.map_append, appendIds_append] at h
  cases hfront : appendIds (fun s => s) [] (path.map Segment.toValue) with
  | error e =>
    rw [hfront] at h
    cases h
  | ok front =>
    rw [hfront] at h
    change appendIds (fun s => s) front (more.map Segment.toValue) = .ok own at h
    rw [appendIds_of_plain hmore] at h
    exact ⟨front, rfl, (Except.ok.inj h).symm⟩

theorem below_of_append (hmore : more.Plain) (hbase : ofPath dialog path = .ok base)
    (hkey : ofPath dialog (path ++ more) = .ok key) : Below base key := by
  obtain ⟨hids, own, hown, hbase⟩ := ofIds_eq_ok_iff.mp hbase
  obtain ⟨-, whole, hwhole, hkey⟩ := ofIds_eq_ok_iff.mp hkey
  obtain ⟨front, hfront, rfl⟩ := appendIds_plain_eq_ok hmore hwhole
  obtain rfl := Except.ok.inj (hown.symm.trans hfront)
  obtain ⟨-, rfl⟩ := render_eq_ok.mp hbase
  obtain ⟨-, rfl⟩ := render_eq_ok.mp hkey
  by_cases hnil : more = []
  · exact .inl (by rw [hnil, List.append_nil])
  · refine .inr ⟨more.map Segment.text, by simpa using hnil, fun s hs => ?_, ?_⟩
    · obtain ⟨t, ht, rfl⟩ := List.mem_map.mp hs
      obtain ⟨name, rfl, hname⟩ := hmore t ht
      exact hname
    · have hne := appendIds_ne_nil hids hown
      rw [List.map_append, joined_append dialog (by simpa using hne) (by simpa using hnil)]

theorem exists_ofPath_of_append (hpath : path ≠ []) (hmore : more.Plain)
    (hkey : ofPath dialog (path ++ more) = .ok key) : ∃ base, ofPath dialog path = .ok base := by
  obtain ⟨-, whole, hwhole, hkey⟩ := ofIds_eq_ok_iff.mp hkey
  obtain ⟨front, hfront, rfl⟩ := appendIds_plain_eq_ok hmore hwhole
  have hshort := (render_eq_ok.mp hkey).1
  rw [List.any_append] at hshort
  exact ⟨_, ofIds_eq_ok_iff.mpr
    ⟨by simpa using hpath, front, hfront, render_eq_ok.mpr ⟨(Bool.or_eq_false_iff.mp hshort).1, rfl⟩⟩⟩

/-! ## Splitting keys -/

theorem intercalate_pieces (s : String) : ".".intercalate (pieces '.' s) = s := by
  have hlist := Text.intercalate_splitWhen '.' s.toList
  rw [← String.toList_inj, String.toList_intercalate, pieces, List.map_map]
  simpa [Function.comp_def] using hlist

theorem all_of_checkSegments {source : Value} {segments : List String} (h : checkSegments source segments = .ok ()) :
    ∀ s ∈ segments, isSegment s = true := by
  induction segments with
  | nil => nofun
  | cons s rest ih =>
    rw [checkSegments] at h
    split at h
    · rename_i hs
      exact List.forall_mem_cons.mpr ⟨hs, ih h⟩
    · cases h

private theorem ofValue_qualified {path : Value} (h : ofValue dialog path = .ok key) :
    ∃ relative, key = dialog ++ ":" ++ relative := by
  have hids {ids : List Value} (h : ofIds dialog ids = .ok key) : ∃ relative, key = dialog ++ ":" ++ relative := by
    obtain ⟨own, -, -, rfl⟩ := ofIds_eq_ok h
    exact ⟨_, rfl⟩
  have hchecked {source : Value} {relative : String}
      (h : (checkSegments source (pieces '.' relative)).map (fun _ => dialog ++ ":" ++ relative) = .ok key) :
      ∃ relative, key = dialog ++ ":" ++ relative := by
    cases hcheck : checkSegments source (pieces '.' relative) with
    | error e =>
      rw [hcheck] at h
      cases h
    | ok =>
      rw [hcheck] at h
      exact ⟨relative, (Except.ok.inj h).symm⟩
  have htext {s : String} (h : ofText dialog s = .ok key) : ∃ relative, key = dialog ++ ":" ++ relative := by
    unfold ofText at h
    split at h
    · split at h
      · exact hchecked h
      · cases h
    · exact hchecked h
    · cases h
  unfold ofValue at h
  split at h
  · exact htext h
  · exact htext h
  · exact hids h
  · exact hids h
  · exact hids h
  · cases h

private theorem getLastD_pieces {relative : String} (h : (pieces ':' (dialog ++ ":" ++ relative)).length ≤ 2) :
    (pieces ':' (dialog ++ ":" ++ relative)).getLastD "" = relative := by
  have htext : (dialog ++ ":" ++ relative).toList = dialog.toList ++ ':' :: relative.toList := by
    simp [String.toList_append]
  unfold pieces at h ⊢
  rw [htext, Text.splitWhen_append_cons (by rfl)] at h ⊢
  have hback := Text.intercalate_splitWhen ':' relative.toList
  match hd : Text.splitWhen (· == ':') dialog.toList, hr : Text.splitWhen (· == ':') relative.toList with
  | [], _ => exact absurd hd (Text.splitWhen_ne_nil _)
  | _, [] => exact absurd hr (Text.splitWhen_ne_nil _)
  | [_], [piece] =>
    rw [hr, List.intercalate_singleton] at hback
    simp [hback]
  | _ :: _ :: _, _ :: _ | [_], _ :: _ :: _ => simp [hd, hr] at h

theorem ofPath_of_toPath {path : Value} {segments : List String} (h : ofValue dialog path = .ok key)
    (hback : toPath (.str key) = .ok segments) : ofPath dialog (segments.map Segment.name) = .ok key := by
  obtain ⟨relative, rfl⟩ := ofValue_qualified h
  have hread : (checkSegments (.str (dialog ++ ":" ++ relative)) (pieces '.' relative)).map
      (fun _ => pieces '.' relative) = .ok segments := by
    unfold toPath at hback
    dsimp only at hback
    have hlast (h : (pieces ':' (dialog ++ ":" ++ relative)).length ≤ 2) := getLastD_pieces h
    split at hback <;> rename_i hpieces
    · rwa [hlast (by simp [hpieces])] at hback
    · rwa [hlast (by simp [hpieces])] at hback
    · rwa [hlast (by simp [hpieces])] at hback
    · cases hback
  cases hcheck : checkSegments (.str (dialog ++ ":" ++ relative)) (pieces '.' relative) with
  | error e =>
    rw [hcheck] at hread
    cases hread
  | ok =>
    rw [hcheck] at hread
    obtain rfl := Except.ok.inj hread
    have hplain : FlowPath.Plain ((pieces '.' relative).map Segment.name) := by
      intro t ht
      obtain ⟨s, hs, rfl⟩ := List.mem_map.mp ht
      exact ⟨s, rfl, all_of_checkSegments hcheck s hs⟩
    have hne : pieces '.' relative ≠ [] := by simpa [pieces] using Text.splitWhen_ne_nil relative.toList
    refine ofIds_eq_ok_iff.mpr ⟨by simpa using hne, _, appendIds_of_plain hplain [], ?_⟩
    refine render_eq_ok.mpr ⟨by simp [Segment.tooLong], ?_⟩
    have hpath : ((pieces '.' relative).map Segment.name).map Segment.text = pieces '.' relative := by
      rw [List.map_map]
      exact List.map_id _
    rw [List.nil_append, hpath, joined, intercalate_pieces]

end FlowKey

end Colloquy

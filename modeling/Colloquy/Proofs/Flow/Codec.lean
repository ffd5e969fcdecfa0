import Colloquy.Proofs.Flow.KeysBelow

/-!
# Keys as a code for paths

A key says of a path what its ids amount to: the texts of the ids from the last absolute one on, without the mark of
that one. Read as a path, as a qualified key or as a relative one, it leads back to itself, and paths that amount to
different texts have different keys.
-/

namespace Colloquy

namespace Segment

def isAbsolute : Segment → Bool
  | .name s => FlowPath.isAbsolute s
  | .index _ => false

/-- Text of an id without the mark of an absolute one. -/
def unmarked (t : Segment) : String :=
  if t.isAbsolute then String.ofList (t.text.toList.drop 1) else t.text

private theorem unmarked_of_relative {t : Segment} (h : t.isAbsolute = false) : t.unmarked = t.text := by
  simp [unmarked, h]

end Segment

namespace FlowPath

/-- Texts of ids from the last absolute one on, which loses its mark. -/
def lastStretch : List Segment → List String
  | [] => []
  | t :: rest =>
    if rest.any Segment.isAbsolute then lastStretch rest else t.unmarked :: rest.map Segment.text

private theorem lastStretch_of_relative {ids : List Segment} (h : ids.any Segment.isAbsolute = false) :
    lastStretch ids = ids.map Segment.text := by
  cases ids with
  | nil => rfl
  | cons t rest =>
    obtain ⟨ht, hrest⟩ := Bool.or_eq_false_iff.mp h
    simp [lastStretch, hrest, Segment.unmarked_of_relative ht]

private theorem map_text_extend (path : FlowPath) (t : Segment) :
    (extend (fun s => s) path t).map Segment.text =
      (if t.isAbsolute then [] else path.map Segment.text) ++ [t.unmarked] := by
  cases t with
  | index n => simp [extend, Segment.isAbsolute, Segment.unmarked]
  | name s =>
    cases habs : isAbsolute s with
    | true => simp [extend, habs, Segment.isAbsolute, Segment.unmarked, Segment.text]
    | false => simp [extend, habs, Segment.isAbsolute, Segment.unmarked, Segment.text]

/-- Accepted ids make a path, and its texts are those of the last stretch of them, after the path so far if none of
them is absolute. -/
theorem appendIds_of_accepted {ids : List Value} {segments : List Segment} (h : ids.mapM readId = .ok segments)
    (path : FlowPath) : ∃ own, appendIds (fun s => s) path ids = .ok own ∧ own.map Segment.text =
      (if segments.any Segment.isAbsolute then [] else path.map Segment.text) ++ lastStretch segments := by
  induction ids generalizing path segments with
  | nil =>
    obtain rfl := Except.ok.inj h
    exact ⟨path, rfl, by simp [lastStretch]⟩
  | cons id rest ih =>
    rw [List.mapM_cons] at h
    cases hread : readId id with
    | error e =>
      rw [hread] at h
      cases h
    | ok t =>
      rw [hread] at h
      cases hrest : rest.mapM readId with
      | error e =>
        rw [hrest] at h
        cases h
      | ok more =>
        rw [hrest] at h
        obtain rfl : t :: more = segments := Except.ok.inj h
        obtain ⟨own, hown, htexts⟩ := ih hrest (extend (fun s => s) path t)
        refine ⟨own, ?_, ?_⟩
        · rw [appendIds, hread]
          exact hown
        · rw [htexts, map_text_extend, lastStretch, List.any_cons]
          cases hmore : more.any Segment.isAbsolute with
          | true => simp
          | false => simp [lastStretch_of_relative hmore]

end FlowPath

namespace FlowKey

open FlowPath

variable {dialog key relative : String} {segments : List String}

/-! ## Relative keys and qualified ones -/

private theorem beq_colon_of_free {s : String} (h : ':' ∉ s.toList) : ∀ c ∈ s.toList, (c == ':') = false := by
  intro c hc
  rw [beq_eq_false_iff_ne]
  rintro rfl
  exact h hc

private theorem pieces_of_free {s : String} (h : ':' ∉ s.toList) : pieces ':' s = [s] := by
  unfold pieces
  rw [Text.splitWhen_of_free (beq_colon_of_free h)]
  simp

private theorem pieces_qualified (hname : ':' ∉ dialog.toList) (hrelative : ':' ∉ relative.toList) :
    pieces ':' (dialog ++ ":" ++ relative) = [dialog, relative] := by
  have htext : (dialog ++ ":" ++ relative).toList = dialog.toList ++ ':' :: relative.toList := by
    simp [String.toList_append]
  unfold pieces
  rw [htext, Text.splitWhen_append (beq_colon_of_free hname) rfl, Text.splitWhen_of_free (beq_colon_of_free hrelative)]
  simp

private theorem toList_intercalate_dot (segments : List String) :
    (".".intercalate segments).toList = ['.'].intercalate (segments.map String.toList) := by
  simp [String.toList_intercalate]

private theorem pieces_intercalate (hne : segments ≠ []) (h : ∀ s ∈ segments, isSegment s = true) :
    pieces '.' (".".intercalate segments) = segments := by
  unfold pieces
  rw [toList_intercalate_dot, Text.splitWhen_intercalate (by simpa using hne) ?_ rfl, List.map_map]
  · simp [Function.comp_def]
  · intro part hpart c hc
    obtain ⟨s, hs, rfl⟩ := List.mem_map.mp hpart
    rw [beq_eq_false_iff_ne]
    rintro rfl
    exact not_mem_of_isSegment (h s hs) rfl (by decide) hc

private theorem colon_not_mem_intercalate (h : ∀ s ∈ segments, isSegment s = true) :
    ':' ∉ (".".intercalate segments).toList := by
  rw [toList_intercalate_dot]
  intro hc
  obtain hc | ⟨part, hpart, hc⟩ := mem_intercalate hc
  · cases hc
  · obtain ⟨s, hs, rfl⟩ := List.mem_map.mp hpart
    exact not_mem_of_isSegment (h s hs) rfl (by decide) hc

/-- A text is a key of a dialog without colons in its name exactly if it is made of segments, with or without the
name in front of them. -/
theorem ofText_eq_ok_iff (hname : ':' ∉ dialog.toList) (s : String) : ofText dialog s = .ok key ↔
    ∃ segments, segments ≠ [] ∧ (∀ t ∈ segments, isSegment t = true) ∧
      (s = ".".intercalate segments ∨ s = dialog ++ ":" ++ ".".intercalate segments) ∧
      key = dialog ++ ":" ++ ".".intercalate segments := by
  constructor
  · have hchecked {relative : String}
        (h : (checkSegments (.str s) (pieces '.' relative)).map (fun _ => dialog ++ ":" ++ relative) = .ok key) :
        pieces '.' relative ≠ [] ∧ (∀ t ∈ pieces '.' relative, isSegment t = true) ∧
          relative = ".".intercalate (pieces '.' relative) ∧ key = dialog ++ ":" ++ relative := by
      cases hcheck : checkSegments (.str s) (pieces '.' relative) with
      | error e =>
        rw [hcheck] at h
        cases h
      | ok =>
        rw [hcheck] at h
        refine ⟨?_, all_of_checkSegments hcheck, (intercalate_pieces relative).symm, (Except.ok.inj h).symm⟩
        simpa [pieces] using Text.splitWhen_ne_nil relative.toList
    have hwhole : ":".intercalate (pieces ':' s) = s := by
      have hlist := Text.intercalate_splitWhen ':' s.toList
      rw [← String.toList_inj, String.toList_intercalate, pieces, List.map_map]
      simpa [Function.comp_def] using hlist
    intro h
    unfold ofText at h
    split at h
    · rename_i qualifier relative hpieces
      split at h
      · rename_i hqualifier
        obtain ⟨hne, hall, hrelative, rfl⟩ := hchecked h
        refine ⟨_, hne, hall, .inr ?_, hrelative ▸ rfl⟩
        rw [← hrelative, ← hwhole, hpieces, eq_of_beq hqualifier]
        simp
      · cases h
    · rename_i relative hpieces
      obtain ⟨hne, hall, hrelative, rfl⟩ := hchecked h
      refine ⟨_, hne, hall, .inl ?_, hrelative ▸ rfl⟩
      rw [← hrelative, ← hwhole, hpieces]
      simp
    · cases h
  · rintro ⟨segments, hne, hall, hs, rfl⟩
    have hfree := colon_not_mem_intercalate hall
    have hcheck : checkSegments (.str s) (pieces '.' (".".intercalate segments)) = .ok () := by
      rw [pieces_intercalate hne hall]
      exact checkSegments_of_all _ hall
    unfold ofText
    obtain hs | hs := hs
    · have hpieces : pieces ':' s = [".".intercalate segments] := by rw [hs, pieces_of_free hfree]
      rw [hpieces]
      dsimp only
      rw [hcheck]
      rfl
    · have hpieces : pieces ':' s = [dialog, ".".intercalate segments] := by rw [hs, pieces_qualified hname hfree]
      rw [hpieces]
      dsimp only
      rw [if_pos (by simp), hcheck]
      rfl

private theorem toPath_of_segments (hname : ':' ∉ dialog.toList) (hne : segments ≠ [])
    (hall : ∀ t ∈ segments, isSegment t = true) {s : String}
    (hs : s = ".".intercalate segments ∨ s = dialog ++ ":" ++ ".".intercalate segments) :
    toPath (.str s) = .ok segments := by
  have hfree := colon_not_mem_intercalate hall
  have hread {relative : String} (hrelative : relative = ".".intercalate segments) :
      ((checkSegments (.str s) (pieces '.' relative)).map fun _ => pieces '.' relative) = .ok segments := by
    rw [hrelative, pieces_intercalate hne hall, checkSegments_of_all _ hall]
    rfl
  unfold toPath
  obtain hs | hs := hs
  · have hpieces : pieces ':' s = [".".intercalate segments] := by rw [hs, pieces_of_free hfree]
    dsimp only
    rw [hpieces]
    exact hread rfl
  · have hpieces : pieces ':' s = [dialog, ".".intercalate segments] := by rw [hs, pieces_qualified hname hfree]
    dsimp only
    rw [hpieces]
    exact hread rfl

/-! ## Paths -/

private theorem ofValue_of_sequence {path : Value} {ids : List Value} (h : path.sequence? = some ids)
    (dialog : String) :
    ofValue dialog path = ofIds dialog ids := by
  cases path with
  | list | tuple =>
    obtain rfl := Option.some.inj h
    rfl
  | _ => cases h

private theorem ofIds_of_segments (hne : segments ≠ []) (hall : ∀ t ∈ segments, isSegment t = true) :
    ofIds dialog (segments.map Value.str) = .ok (joined dialog segments) := by
  have hplain : FlowPath.Plain (segments.map Segment.name) := by
    intro t ht
    obtain ⟨s, hs, rfl⟩ := List.mem_map.mp ht
    exact ⟨s, rfl, hall s hs⟩
  have happend := appendIds_of_plain hplain []
  rw [List.map_map] at happend
  refine ofIds_eq_ok_iff.mpr ⟨by simpa using hne, _, happend, ?_⟩
  refine render_eq_ok.mpr ⟨by simp [Segment.tooLong], ?_⟩
  change joined dialog segments = joined dialog ((segments.map Segment.name).map Segment.text)
  rw [List.map_map]
  exact congrArg _ (List.map_id' segments).symm

/-- A key of a dialog stands for a path of certain texts: it is decoded to them, and whether it is written with the name
of the dialog or without it, or given as those texts, it is the key that is read. -/
structure Encodes (dialog key : String) (texts : List String) : Prop where
  decoded : toPath (.str key) = .ok texts
  qualified : ofValue dialog (.str key) = .ok key
  relative : ∃ relative, key = dialog ++ ":" ++ relative ∧ ofValue dialog (.str relative) = .ok key
  path : ∀ path : Value, path.sequence? = some (texts.map Value.str) → ofValue dialog path = .ok key

private theorem encodes_of_segments (hname : ':' ∉ dialog.toList) (hne : segments ≠ [])
    (hall : ∀ t ∈ segments, isSegment t = true) : Encodes dialog (joined dialog segments) segments where
  decoded := toPath_of_segments hname hne hall (.inr rfl)
  qualified := (ofText_eq_ok_iff hname _).mpr ⟨segments, hne, hall, .inr rfl, rfl⟩
  relative := ⟨_, rfl, (ofText_eq_ok_iff hname _).mpr ⟨segments, hne, hall, .inl rfl, rfl⟩⟩
  path _ hpath := (ofValue_of_sequence hpath dialog).trans (ofIds_of_segments hne hall)

private theorem ofIds_of_appendIds {ids : List Value} {own : FlowPath} (hne : ids ≠ [])
    (h : appendIds (fun s => s) [] ids = .ok own) : ofIds dialog ids =
      if own.any Segment.tooLong then .error (.fault .badValue) else .ok (joined dialog (own.map Segment.text)) := by
  unfold ofIds
  rw [if_neg (by simpa using hne), h, ← render_eq]
  rfl

private theorem segments_of_appendIds {ids : List Value} {own : FlowPath} (hne : ids ≠ [])
    (h : appendIds (fun s => s) [] ids = .ok own) :
    own.map Segment.text ≠ [] ∧ ∀ t ∈ own.map Segment.text, isSegment t = true :=
  ⟨by simpa using appendIds_ne_nil hne h, List.forall_mem_map.mpr (isSegment_of_appendIds (by simp) h)⟩

private theorem joined_inj {others : List String} (hne : segments ≠ []) (hne' : others ≠ [])
    (hall : ∀ t ∈ segments, isSegment t = true) (hall' : ∀ t ∈ others, isSegment t = true) :
    joined dialog segments = joined dialog others ↔ segments = others := by
  refine ⟨fun h => ?_, fun h => by rw [h]⟩
  have hrelative : ".".intercalate segments = ".".intercalate others := by
    simp only [joined, ← String.toList_inj, String.toList_append] at h
    exact String.toList_inj.mp (List.append_cancel_left h)
  rw [← pieces_intercalate hne hall, hrelative, pieces_intercalate hne' hall']

/-- Flow keys are a faithful code for paths. Take a dialog whose name has no colon. Accepted ids resolve to a path, whose
texts are those of the last stretch of the ids. They have a key unless a number in the resolved path is too long to be
written, and this key stands for these texts. Texts are keys exactly if they are made of segments, and they are decoded
to what has the same key. Of ids that have keys, those have the same one that amount to the same texts. -/
theorem keys_encode_paths {dialog : String} (hname : ':' ∉ dialog.toList) :
    (∀ (ids : List Value) (segments : List Segment), ids ≠ [] → ids.mapM readId = .ok segments →
      ∃ own, appendIds (fun s => s) [] ids = .ok own ∧ own.map Segment.text = lastStretch segments ∧
        (∀ path : Value, path.sequence? = some ids → ofValue dialog path =
          if own.any Segment.tooLong then .error (.fault .badValue) else .ok (joined dialog (own.map Segment.text))) ∧
        Encodes dialog (joined dialog (own.map Segment.text)) (own.map Segment.text)) ∧
    (∀ s : String, (∃ key, ofValue dialog (.str s) = .ok key) ↔
      ∃ segments, segments ≠ [] ∧ (∀ t ∈ segments, isSegment t = true) ∧
        (s = ".".intercalate segments ∨ s = dialog ++ ":" ++ ".".intercalate segments)) ∧
    (∀ (s key : String), ofValue dialog (.str s) = .ok key →
      ∃ segments, toPath (.str s) = .ok segments ∧
        ∀ path : Value, path.sequence? = some (segments.map Value.str) → ofValue dialog path = .ok key) ∧
    (∀ (ids ids' : List Value) (own own' : FlowPath) (key key' : String),
      appendIds (fun s => s) [] ids = .ok own → appendIds (fun s => s) [] ids' = .ok own' →
      ofValue dialog (.tuple ids) = .ok key → ofValue dialog (.tuple ids') = .ok key' →
      (key = key' ↔ own.map Segment.text = own'.map Segment.text)) := by
  refine ⟨fun ids segments hne h => ?_, fun s => ?_, fun s key h => ?_,
    fun ids ids' own own' key key' h h' hkey hkey' => ?_⟩
  · obtain ⟨own, hown, htexts⟩ := appendIds_of_accepted h []
    obtain ⟨hsome, hall⟩ := segments_of_appendIds hne hown
    refine ⟨own, hown, by simpa using htexts, fun path hpath => ?_, encodes_of_segments hname hsome hall⟩
    exact (ofValue_of_sequence hpath dialog).trans (ofIds_of_appendIds hne hown)
  · constructor
    · rintro ⟨key, h⟩
      obtain ⟨segments, hne, hall, hs, -⟩ := (ofText_eq_ok_iff hname s).mp h
      exact ⟨segments, hne, hall, hs⟩
    · rintro ⟨segments, hne, hall, hs⟩
      exact ⟨_, (ofText_eq_ok_iff hname s).mpr ⟨segments, hne, hall, hs, rfl⟩⟩
  · obtain ⟨segments, hne, hall, hs, rfl⟩ := (ofText_eq_ok_iff hname s).mp h
    exact ⟨segments, toPath_of_segments hname hne hall hs, (encodes_of_segments hname hne hall).path⟩
  · have hread {ids : List Value} {own : FlowPath} {key : String} (h : appendIds (fun s => s) [] ids = .ok own)
        (hkey : ofValue dialog (.tuple ids) = .ok key) : ids ≠ [] ∧ key = joined dialog (own.map Segment.text) := by
      obtain ⟨hne, _, hown, hrender⟩ := ofIds_eq_ok_iff.mp hkey
      obtain rfl := Except.ok.inj (h.symm.trans hown)
      exact ⟨hne, (render_eq_ok.mp hrender).2⟩
    obtain ⟨hne, rfl⟩ := hread h hkey
    obtain ⟨hne', rfl⟩ := hread h' hkey'
    obtain ⟨hsome, hall⟩ := segments_of_appendIds hne h
    obtain ⟨hsome', hall'⟩ := segments_of_appendIds hne' h'
    exact joined_inj hsome hsome' hall hall'

/-- An absolute id in the middle of a path leaves nothing of what is before it, and a line break at its end stays. -/
theorem restarted_path_is_encoded : ':' ∉ "Survey".toList ∧
    ofValue "Survey" (.tuple [.str "onStart", .str "#end\n", .int (-3)]) = .ok "Survey:end\n.-3" ∧
    Encodes "Survey" "Survey:end\n.-3" ["end\n", "-3"] := by
  have hname : ':' ∉ "Survey".toList := by decide
  have hread : appendIds (fun s => s) [] [.str "onStart", .str "#end\n", .int (-3)] =
      .ok [.name "end\n", .index (-3)] := by with_unfolding_all rfl
  obtain ⟨own, hown, -, hkey, hencodes⟩ := (keys_encode_paths hname).1
    [.str "onStart", .str "#end\n", .int (-3)] [.name "onStart", .name "#end\n", .index (-3)] (by simp)
    (by with_unfolding_all rfl)
  obtain rfl : own = [.name "end\n", .index (-3)] := Except.ok.inj (hown.symm.trans hread)
  have hshort : [Segment.name "end\n", .index (-3)].any Segment.tooLong = false := by
    simp [Segment.tooLong, Value.tooLong_of_digit (n := -3) (by decide)]
  have htexts : [Segment.name "end\n", .index (-3)].map Segment.text = ["end\n", "-3"] := by with_unfolding_all rfl
  have hjoined : joined "Survey" ["end\n", "-3"] = "Survey:end\n.-3" := by with_unfolding_all rfl
  rw [htexts, hjoined] at hkey hencodes
  exact ⟨hname, (hkey _ rfl).trans (if_neg (by simp [hshort])), hencodes⟩

/-- A number that is too long to be written is an id, but no key can be made of it. -/
theorem long_number_has_no_key : ':' ∉ "Survey".toList ∧ readId (.int (10 ^ 4300)) = .ok (.index (10 ^ 4300)) ∧
    ofValue "Survey" (.tuple [.int (10 ^ 4300)]) = .error (.fault .badValue) := by
  have hrefused {n : Int} (h : Value.tooLong n = true) : readId (.int n) = .ok (.index n) ∧
      ofValue "Survey" (.tuple [.int n]) = .error (.fault .badValue) := by
    have hresolved : appendIds (fun s => s) [] [.int n] = .ok [.index n] := rfl
    exact ⟨rfl, (ofIds_of_appendIds (by simp) hresolved).trans (if_pos (by simp [Segment.tooLong, h]))⟩
  exact ⟨by decide, hrefused (Value.tooLong_pow (by decide))⟩

end FlowKey

end Colloquy

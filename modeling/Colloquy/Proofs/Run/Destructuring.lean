import Mathlib.Computability.Language
import Mathlib.Data.List.DropRight
import Mathlib.Data.Set.List
import Colloquy.Proofs.Flow.KeysBelow
import Colloquy.Proofs.Run.Simultaneous

/-!
# Destructuring

A key of a `set` that names members in braces is a pattern: identifiers with commas between them, and blanks around
names, commas and braces as one likes. Here a pattern is data, with every blank that is written, so nothing that is no
pattern can be built. A key is read as names exactly if it is what some pattern is written as, and then the names are
those of the pattern. Every other key is the name of a variable.

The names are also those that a regular expression finds: it matches the key without the blanks around it, and its group
is split at the commas.
-/

namespace Colloquy

/-! ## Blanks around a text -/

namespace Text

abbrev Blanks := { cs : List Char // ∀ c ∈ cs, isBlank c = true }

private theorem isBlank_of_isWordPart {c : Char} (h : isWordPart c = true) : isBlank c = false := by
  rw [isWordPart, Bool.and_eq_true] at h
  simpa using h.1

end Text

namespace Number

open Text

private theorem stripBlanks_append (before after : Blanks) {cs : List Char} (hne : cs ≠ [])
    (hfirst : isBlank (cs.head hne) = false) (hlast : isBlank (cs.getLast hne) = false) :
    stripBlanks (before.val ++ cs ++ after.val) = cs := by
  have hbegin : (before.val ++ cs ++ after.val).dropWhile isBlank = cs ++ after.val := by
    rw [List.append_assoc, List.dropWhile_append_of_pos before.2]
    obtain ⟨c, rest, rfl⟩ := List.exists_cons_of_ne_nil hne
    exact List.dropWhile_cons_of_neg (by simpa using hfirst)
  have hend : (cs ++ after.val).rdropWhile isBlank = cs := by
    rw [List.rdropWhile, List.reverse_append, List.dropWhile_append_of_pos (by simpa using after.2), ← List.rdropWhile,
      List.rdropWhile_eq_self_iff]
    intro _
    simpa using hlast
  rw [stripBlanks, hbegin, ← List.rdropWhile, hend]

private theorem stripBlanks_append_left (before : Blanks) (cs : List Char) :
    stripBlanks (before.val ++ cs) = stripBlanks cs := by
  rw [stripBlanks, List.dropWhile_append_of_pos before.2, ← stripBlanks]

private theorem stripBlanks_append_right (cs : List Char) (after : Blanks) :
    stripBlanks (cs ++ after.val) = stripBlanks cs := by
  have hafter : after.val.dropWhile isBlank = [] := List.dropWhile_eq_nil_iff.mpr after.2
  rw [stripBlanks, stripBlanks, List.dropWhile_append]
  split
  · rename_i hcs
    rw [hafter, List.isEmpty_iff.mp hcs]
  · rw [List.reverse_append, List.dropWhile_append_of_pos (by simpa using after.2)]

private theorem stripBlanks_ne_concat (cs body : List Char) {c : Char} (hc : isBlank c = true) :
    stripBlanks cs ≠ body ++ [c] := by
  rw [stripBlanks, ← List.rdropWhile]
  intro h
  have hne : (cs.dropWhile isBlank).rdropWhile isBlank ≠ [] := by simp [h]
  have hlast := List.rdropWhile_last_not isBlank _ hne
  simp only [h, List.getLast_concat, hc, not_true_eq_false] at hlast

private theorem exists_blanks_around (cs : List Char) :
    ∃ before after : Blanks, before.val ++ stripBlanks cs ++ after.val = cs := by
  refine ⟨⟨cs.takeWhile isBlank, fun _ => List.mem_takeWhile_imp⟩,
    ⟨(cs.dropWhile isBlank).rtakeWhile isBlank, fun _ => List.mem_rtakeWhile_imp⟩, ?_⟩
  rw [List.append_assoc, stripBlanks, ← List.rdropWhile, List.rdropWhile_append_rtakeWhile,
    List.takeWhile_append_dropWhile]

end Number

open Number Text

/-! ## Patterns -/

/-- An identifier: a letter of ASCII or an underscore, then characters of words. -/
structure PatternName where
  first : Char
  rest : List Char
  starts : ('A' ≤ first ∧ first ≤ 'Z') ∨ ('a' ≤ first ∧ first ≤ 'z') ∨ first = '_'
  continues : ∀ c ∈ rest, isWordPart c = true

structure SpacedName where
  before : Blanks
  name : PatternName
  after : Blanks

/-- A pattern as it is written, with the blanks around it. -/
structure MemberPattern where
  before : Blanks
  spaced : List SpacedName
  spaced_ne_nil : spaced ≠ []
  after : Blanks

private theorem startsPatternName_iff {c : Char} :
    startsPatternName c = true ↔ ('A' ≤ c ∧ c ≤ 'Z') ∨ ('a' ≤ c ∧ c ≤ 'z') ∨ c = '_' := by
  have hupper : c.isUpper = true ↔ 'A' ≤ c ∧ c ≤ 'Z' := decide_eq_true_iff
  have hlower : c.isLower = true ↔ 'a' ≤ c ∧ c ≤ 'z' :=
    Bool.and_eq_true_iff.trans (and_congr decide_eq_true_iff decide_eq_true_iff)
  have halpha : c.isAlpha = true ↔ c.isUpper = true ∨ c.isLower = true := Bool.or_eq_true_iff
  rw [startsPatternName, Bool.or_eq_true, beq_iff_eq, halpha, hupper, hlower, or_assoc]

private theorem isBlank_of_startsPatternName {c : Char} (h : startsPatternName c = true) : isBlank c = false := by
  have hrange : 65 ≤ c.toNat ∧ c.toNat ≤ 122 := by
    rcases startsPatternName_iff.mp h with ⟨hlow, hhigh⟩ | ⟨hlow, hhigh⟩ | rfl
    · exact ⟨hlow, Nat.le_trans hhigh (by decide)⟩
    · exact ⟨Nat.le_trans (by decide) hlow, hhigh⟩
    · decide
  simp only [isBlank, Bool.or_eq_false_iff, Bool.and_eq_false_iff, decide_eq_false_iff_not, beq_eq_false_iff_ne]
  omega

namespace PatternName

variable (name : PatternName)

def chars : List Char := name.first :: name.rest

/-- The identifier as the name of a variable. -/
def text : String := String.ofList name.chars

private theorem isBlank_of_mem_chars {c : Char} (h : c ∈ name.chars) : isBlank c = false := by
  rcases List.mem_cons.mp h with rfl | hrest
  · exact isBlank_of_startsPatternName (startsPatternName_iff.mpr name.starts)
  · exact isBlank_of_isWordPart (name.continues c hrest)

private theorem comma_not_mem_chars : ',' ∉ name.chars := by
  intro hmem
  rcases List.mem_cons.mp hmem with hfirst | hrest
  · exact absurd (hfirst ▸ name.starts) (by decide)
  · exact absurd (name.continues ',' hrest) (by decide)

private theorem isPatternName_chars : isPatternName name.chars = true := by
  rw [chars, isPatternName, startsPatternName_iff.mpr name.starts, Bool.true_and, List.all_eq_true]
  exact name.continues

private theorem exists_of_isPatternName {cs : List Char} (h : isPatternName cs = true) :
    ∃ name : PatternName, name.chars = cs := by
  cases cs with
  | nil => cases h
  | cons first rest =>
    rw [isPatternName, Bool.and_eq_true, List.all_eq_true] at h
    exact ⟨⟨first, rest, startsPatternName_iff.mp h.1, h.2⟩, rfl⟩

end PatternName

namespace SpacedName

/-- The name as it is written among its blanks. -/
def chars (spaced : SpacedName) : List Char := spaced.before.val ++ spaced.name.chars ++ spaced.after.val

private theorem stripBlanks_chars (spaced : SpacedName) : stripBlanks spaced.chars = spaced.name.chars :=
  stripBlanks_append spaced.before spaced.after (List.cons_ne_nil _ _)
    (spaced.name.isBlank_of_mem_chars (List.head_mem _)) (spaced.name.isBlank_of_mem_chars (List.getLast_mem _))

private theorem comma_not_mem_chars (spaced : SpacedName) : ',' ∉ spaced.chars := by
  have hcomma : isBlank ',' ≠ true := by decide
  rw [chars, List.mem_append, List.mem_append]
  rintro ((hbefore | hname) | hafter)
  · exact hcomma (spaced.before.2 ',' hbefore)
  · exact spaced.name.comma_not_mem_chars hname
  · exact hcomma (spaced.after.2 ',' hafter)

private theorem exists_of_isPatternName {piece : List Char} (h : isPatternName (stripBlanks piece) = true) :
    ∃ spaced : SpacedName, spaced.chars = piece := by
  obtain ⟨name, hname⟩ := PatternName.exists_of_isPatternName h
  obtain ⟨before, after, hpiece⟩ := exists_blanks_around piece
  exact ⟨⟨before, name, after⟩, by rw [chars, hname, hpiece]⟩

end SpacedName

namespace MemberPattern

variable (pattern : MemberPattern)

def inner : List Char := [','].intercalate (pattern.spaced.map SpacedName.chars)

/-- The key that the pattern is written as. -/
def text : String := String.ofList (pattern.before.val ++ '\x7b' :: (pattern.inner ++ ['\x7d']) ++ pattern.after.val)

def names : List String := pattern.spaced.map fun spaced => spaced.name.text

private theorem isBlank_of_mem_names {name : String} (h : name ∈ pattern.names) {c : Char} (hc : c ∈ name.toList) :
    isBlank c = false := by
  obtain ⟨spaced, -, rfl⟩ := List.mem_map.mp h
  rw [PatternName.text, String.toList_ofList] at hc
  exact spaced.name.isBlank_of_mem_chars hc

private theorem stripBlanks_text : stripBlanks pattern.text.toList = '\x7b' :: (pattern.inner ++ ['\x7d']) := by
  rw [text, String.toList_ofList]
  refine stripBlanks_append _ _ (List.cons_ne_nil _ _) (by rfl) ?_
  rw [List.getLast_cons (by simp), List.getLast_concat]
  rfl

private theorem splitWhen_inner : splitWhen (· == ',') pattern.inner = pattern.spaced.map SpacedName.chars := by
  refine splitWhen_intercalate (by simpa using pattern.spaced_ne_nil) ?_ (by rfl)
  rw [List.forall_mem_map]
  exact fun spaced _ c hc => beq_false_of_ne fun heq => spaced.comma_not_mem_chars (heq ▸ hc)

end MemberPattern

/-- A key is read as names exactly if, blanks around it dropped, it has braces around pieces with commas between them,
and each piece is a name among blanks. -/
theorem parseDestructuring_eq_some_iff {key : String} {names : List String} :
    parseDestructuring key = some names ↔ ∃ inner, stripBlanks key.toList = '\x7b' :: (inner ++ ['\x7d']) ∧
      (∀ piece ∈ splitWhen (· == ',') inner, isPatternName (stripBlanks piece) = true) ∧
      (splitWhen (· == ',') inner).map (fun piece => String.ofList (stripBlanks piece)) = names := by
  constructor
  · intro h
    unfold parseDestructuring at h
    split at h
    · rename_i rest hkey
      split at h
      · rename_i hlast
        obtain ⟨inner, rfl⟩ := List.getLast?_eq_some_iff.mp (eq_of_beq hlast)
        dsimp only at h
        rw [List.dropLast_concat, List.all_map, List.map_map] at h
        split at h
        · rename_i hpieces
          exact ⟨inner, hkey, List.all_eq_true.mp hpieces, Option.some.inj h⟩
        · cases h
      · cases h
    · cases h
  · rintro ⟨inner, hkey, hpieces, rfl⟩
    have hnames : ((splitWhen (· == ',') inner).map stripBlanks).all isPatternName = true := by
      rw [List.all_map]
      exact List.all_eq_true.mpr hpieces
    unfold parseDestructuring
    simp only [hkey, List.getLast?_concat, BEq.rfl, if_true, List.dropLast_concat, hnames, List.map_map]
    rfl

/-! ## The regular expression

`^\{\s*([A-Za-z_]\w*(?:\s*,\s*[A-Za-z_]\w*)*)\s*\}$`, as the language of what each of its parts matches.
-/

namespace NamesExpression

open Computability

def oneOf (p : Char → Bool) : Language Char := {cs | ∃ c, p c = true ∧ cs = [c]}

def blanks : Language Char := (oneOf isBlank)∗

/-- An identifier: `[A-Za-z_]\w*`. -/
def name : Language Char := oneOf startsPatternName * (oneOf isWordPart)∗

/-- The group: `[A-Za-z_]\w*(?:\s*,\s*[A-Za-z_]\w*)*`. -/
def group : Language Char := name * (blanks * {[',']} * blanks * name)∗

/-- The end of a text, which `$` also finds in front of a last line break. -/
def atEnd : Language Char := 1 + {['\n']}

/-- The expression matches a text, and the group is what is captured. -/
def Captures (cs captured : List Char) : Prop :=
  captured ∈ group ∧ cs ∈ {['\x7b']} * blanks * {captured} * blanks * {['\x7d']} * atEnd

private theorem mem_kstar_oneOf {p : Char → Bool} {cs : List Char} : cs ∈ (oneOf p)∗ ↔ ∀ c ∈ cs, p c = true := by
  rw [Language.mem_kstar]
  constructor
  · rintro ⟨pieces, rfl, hpieces⟩ c hc
    obtain ⟨piece, hmem, hc⟩ := List.mem_flatten.mp hc
    obtain ⟨only, honly, rfl⟩ := hpieces piece hmem
    rwa [List.mem_singleton.mp hc]
  · intro h
    refine ⟨cs.map fun c => [c], by simp [← List.flatMap_def], ?_⟩
    rw [List.forall_mem_map]
    exact fun c hc => ⟨c, h c hc, rfl⟩

private theorem mem_name {cs : List Char} : cs ∈ name ↔ isPatternName cs = true := by
  rw [name, Language.mem_mul]
  constructor
  · rintro ⟨_, ⟨first, hfirst, rfl⟩, rest, hrest, rfl⟩
    rw [List.singleton_append, isPatternName, hfirst, Bool.true_and, List.all_eq_true]
    exact mem_kstar_oneOf.mp hrest
  · intro h
    cases cs with
    | nil => cases h
    | cons first rest =>
      rw [isPatternName, Bool.and_eq_true, List.all_eq_true] at h
      exact ⟨[first], ⟨first, h.1, rfl⟩, rest, mem_kstar_oneOf.mpr h.2, rfl⟩

private theorem mem_spacedName {piece : List Char} :
    piece ∈ blanks * name * blanks ↔ isPatternName (stripBlanks piece) = true := by
  constructor
  · rintro ⟨_, ⟨before, hbefore, found, hfound, rfl⟩, after, hafter, rfl⟩
    obtain ⟨found, rfl⟩ := PatternName.exists_of_isPatternName (mem_name.mp hfound)
    let spaced : SpacedName := ⟨⟨before, mem_kstar_oneOf.mp hbefore⟩, found, ⟨after, mem_kstar_oneOf.mp hafter⟩⟩
    rw [show stripBlanks (before ++ found.chars ++ after) = found.chars from spaced.stripBlanks_chars]
    exact found.isPatternName_chars
  · intro h
    obtain ⟨spaced, rfl⟩ := SpacedName.exists_of_isPatternName h
    exact Language.append_mem_mul
      (Language.append_mem_mul (mem_kstar_oneOf.mpr spaced.before.2) (mem_name.mpr spaced.name.isPatternName_chars))
      (mem_kstar_oneOf.mpr spaced.after.2)

private theorem kstar_mul_slide {K : Type*} [KleeneAlgebra K] (a b : K) : (a * b)∗ * a = a * (b * a)∗ := by
  refine le_antisymm (kstar_mul_le ?_ ?_) (mul_kstar_le ?_ ?_)
  · exact le_mul_of_one_le_right' one_le_kstar
  · rw [mul_assoc, ← mul_assoc b]
    gcongr
    exact mul_kstar_le_kstar
  · exact le_mul_of_one_le_left' one_le_kstar
  · rw [mul_assoc, ← mul_assoc a, ← mul_assoc]
    gcongr
    exact kstar_mul_le_kstar

private theorem blanks_mul_group_mul_blanks :
    blanks * group * blanks = blanks * name * blanks * ({[',']} * (blanks * name * blanks))∗ := by
  have hslide := kstar_mul_slide blanks ({[',']} * blanks * name)
  simp only [group, mul_assoc] at hslide ⊢
  rw [hslide]

private theorem intercalate_cons (c : Char) (part : List Char) (rest : List (List Char)) :
    [c].intercalate (part :: rest) = part ++ (rest.map (c :: ·)).flatten := by
  induction rest generalizing part with
  | nil => simp
  | cons next rest ih => rw [List.intercalate_cons_cons, ih]; simp

private theorem mem_mul_kstar_iff {S : Language Char} {c : Char} {cs : List Char} :
    cs ∈ S * ({[c]} * S)∗ ↔ ∃ pieces, pieces ≠ [] ∧ (∀ piece ∈ pieces, piece ∈ S) ∧ [c].intercalate pieces = cs := by
  rw [Language.mem_mul]
  constructor
  · rintro ⟨first, hfirst, _, ⟨more, rfl, hmore⟩, rfl⟩
    have hpieces : more ∈ Set.range (List.map fun piece : {cs // cs ∈ S} => c :: piece.val) := by
      rw [Set.range_list_map]
      intro part hpart
      obtain ⟨_, rfl, piece, hpiece, rfl⟩ := hmore part hpart
      exact ⟨⟨piece, hpiece⟩, rfl⟩
    obtain ⟨pieces, rfl⟩ := hpieces
    refine ⟨first :: pieces.map Subtype.val, List.cons_ne_nil _ _, ?_, ?_⟩
    · rw [List.forall_mem_cons, List.forall_mem_map]
      exact ⟨hfirst, fun piece _ => piece.2⟩
    · rw [intercalate_cons, List.map_map]
      rfl
  · rintro ⟨pieces, hne, hpieces, rfl⟩
    obtain ⟨first, more, rfl⟩ := List.exists_cons_of_ne_nil hne
    rw [List.forall_mem_cons] at hpieces
    refine ⟨first, hpieces.1, _, Language.join_mem_kstar ?_, (intercalate_cons ..).symm⟩
    rw [List.forall_mem_map]
    exact fun piece hmem => Language.mem_mul.mpr ⟨[c], rfl, piece, hpieces.2 piece hmem, rfl⟩

private theorem mem_blanks_mul_group_mul_blanks {inner : List Char} :
    inner ∈ blanks * group * blanks ↔
      ∃ captured ∈ group, ∃ before after : Blanks, before.val ++ captured ++ after.val = inner := by
  constructor
  · rintro ⟨_, ⟨before, hbefore, captured, hcaptured, rfl⟩, after, hafter, rfl⟩
    exact ⟨captured, hcaptured, ⟨before, mem_kstar_oneOf.mp hbefore⟩, ⟨after, mem_kstar_oneOf.mp hafter⟩, rfl⟩
  · rintro ⟨captured, hcaptured, before, after, rfl⟩
    exact Language.append_mem_mul (Language.append_mem_mul (mem_kstar_oneOf.mpr before.2) hcaptured)
      (mem_kstar_oneOf.mpr after.2)

private theorem mem_inner {inner : List Char} :
    inner ∈ blanks * group * blanks ↔
      ∀ piece ∈ splitWhen (· == ',') inner, isPatternName (stripBlanks piece) = true := by
  rw [blanks_mul_group_mul_blanks, mem_mul_kstar_iff]
  constructor
  · rintro ⟨pieces, hne, hpieces, rfl⟩
    rw [splitWhen_intercalate hne (fun piece hmem => ?_) rfl]
    · exact fun piece hmem => mem_spacedName.mp (hpieces piece hmem)
    · obtain ⟨spaced, rfl⟩ := SpacedName.exists_of_isPatternName (mem_spacedName.mp (hpieces piece hmem))
      exact fun c hc => beq_false_of_ne fun heq => spaced.comma_not_mem_chars (heq ▸ hc)
  · intro h
    exact ⟨_, splitWhen_ne_nil inner, fun piece hmem => mem_spacedName.mpr (h piece hmem),
      intercalate_splitWhen ',' inner⟩

private theorem comma_not_mem_blanks (spaces : Blanks) : ∀ c ∈ spaces.val, (c == ',') = false :=
  fun c hc => beq_false_of_ne fun heq => absurd (heq ▸ spaces.2 c hc) (by decide)

private theorem map_stripBlanks_splitWhen_intercalate (after : Blanks) {pieces : List (List Char)} (hne : pieces ≠ [])
    (hpieces : ∀ piece ∈ pieces, ∀ c ∈ piece, (c == ',') = false) :
    (splitWhen (· == ',') ([','].intercalate pieces ++ after.val)).map stripBlanks = pieces.map stripBlanks := by
  induction pieces with
  | nil => exact absurd rfl hne
  | cons piece rest ih =>
    rw [List.forall_mem_cons] at hpieces
    cases rest with
    | nil =>
      rw [List.intercalate_singleton,
        splitWhen_of_free (List.forall_mem_append.mpr ⟨hpieces.1, comma_not_mem_blanks after⟩), List.map_singleton,
        stripBlanks_append_right, List.map_singleton]
    | cons next rest =>
      rw [List.intercalate_cons_cons, List.append_assoc, List.append_assoc, List.singleton_append,
        splitWhen_append hpieces.1 rfl, List.map_cons, ih (List.cons_ne_nil _ _) hpieces.2]
      rfl

private theorem map_stripBlanks_splitWhen (before after : Blanks) (cs : List Char) :
    (splitWhen (· == ',') (before.val ++ cs ++ after.val)).map stripBlanks =
      (splitWhen (· == ',') cs).map stripBlanks := by
  have hfree : ∀ piece ∈ splitWhen (· == ',') cs, ∀ c ∈ piece, (c == ',') = false :=
    fun piece => free_of_mem_splitWhen
  obtain ⟨first, rest, hsplit⟩ := List.exists_cons_of_ne_nil (splitWhen_ne_nil (p := (· == ',')) cs)
  have hcs : before.val ++ cs = [','].intercalate ((before.val ++ first) :: rest) := by
    rw [intercalate_cons, List.append_assoc, ← intercalate_cons, ← hsplit, intercalate_splitWhen]
  rw [hsplit, List.forall_mem_cons] at hfree
  rw [hcs, map_stripBlanks_splitWhen_intercalate after (List.cons_ne_nil _ _), hsplit, List.map_cons, List.map_cons,
    stripBlanks_append_left]
  exact List.forall_mem_cons.mpr ⟨List.forall_mem_append.mpr ⟨comma_not_mem_blanks before, hfree.1⟩, hfree.2⟩

private theorem captures_iff {cs captured : List Char} :
    Captures cs captured ↔ captured ∈ group ∧ ∃ before after : Blanks, ∃ rest ∈ atEnd,
      cs = '\x7b' :: (before.val ++ captured ++ after.val ++ '\x7d' :: rest) := by
  refine and_congr_right fun _ => ?_
  simp only [Language.mem_mul]
  constructor
  · rintro ⟨_, ⟨_, ⟨_, ⟨_, ⟨_, rfl, before, hbefore, rfl⟩, _, rfl, rfl⟩, after, hafter, rfl⟩, _, rfl, rfl⟩,
      rest, hrest, rfl⟩
    exact ⟨⟨before, mem_kstar_oneOf.mp hbefore⟩, ⟨after, mem_kstar_oneOf.mp hafter⟩, rest, hrest, by simp⟩
  · rintro ⟨before, after, rest, hrest, rfl⟩
    exact ⟨_, ⟨_, ⟨_, ⟨_, ⟨_, rfl, _, mem_kstar_oneOf.mpr before.2, rfl⟩, _, rfl, rfl⟩, _, mem_kstar_oneOf.mpr after.2,
      rfl⟩, _, rfl, rfl⟩, rest, hrest, by simp⟩

end NamesExpression

open NamesExpression in
/-- A key is read as names exactly if the regular expression matches it without the blanks around it, and then as the
pieces of the group between commas, each without the blanks around it. -/
theorem parseDestructuring_eq_some_iff_captures {key : String} {names : List String} :
    parseDestructuring key = some names ↔ ∃ captured, Captures (stripBlanks key.toList) captured ∧
      (splitWhen (· == ',') captured).map (fun piece => String.ofList (stripBlanks piece)) = names := by
  have hnames (before after : Blanks) (captured : List Char) :
      (splitWhen (· == ',') (before.val ++ captured ++ after.val)).map (fun piece => String.ofList (stripBlanks piece)) =
        (splitWhen (· == ',') captured).map fun piece => String.ofList (stripBlanks piece) := by
    have hpieces := congrArg (List.map String.ofList) (map_stripBlanks_splitWhen before after captured)
    rwa [List.map_map, List.map_map] at hpieces
  rw [parseDestructuring_eq_some_iff]
  constructor
  · rintro ⟨inner, hkey, hpieces, rfl⟩
    obtain ⟨captured, hcaptured, before, after, rfl⟩ := mem_blanks_mul_group_mul_blanks.mp (mem_inner.mpr hpieces)
    exact ⟨captured, captures_iff.mpr ⟨hcaptured, before, after, [], Or.inl rfl, hkey⟩,
      (hnames before after captured).symm⟩
  · rintro ⟨captured, hcaptures, rfl⟩
    obtain ⟨hcaptured, before, after, rest, hrest, hkey⟩ := captures_iff.mp hcaptures
    rcases hrest with rfl | rfl
    · have hinner := mem_inner.mp (mem_blanks_mul_group_mul_blanks.mpr ⟨captured, hcaptured, before, after, rfl⟩)
      exact ⟨_, hkey, hinner, hnames before after captured⟩
    · -- A text that blanks were dropped from does not end with a line break.
      exact absurd (hkey.trans (by simp)) (stripBlanks_ne_concat (c := '\n') key.toList
        ('\x7b' :: (before.val ++ captured ++ after.val ++ ['\x7d'])) rfl)

namespace MemberPattern

private theorem parseDestructuring_text (pattern : MemberPattern) :
    parseDestructuring pattern.text = some pattern.names := by
  refine parseDestructuring_eq_some_iff.mpr ⟨pattern.inner, pattern.stripBlanks_text, ?_, ?_⟩
  · rw [splitWhen_inner, List.forall_mem_map]
    intro spaced _
    rw [SpacedName.stripBlanks_chars]
    exact spaced.name.isPatternName_chars
  · rw [splitWhen_inner, List.map_map]
    refine List.map_congr_left fun spaced _ => ?_
    rw [Function.comp_apply, SpacedName.stripBlanks_chars, PatternName.text]

private theorem exists_of_parseDestructuring {key : String} {names : List String}
    (h : parseDestructuring key = some names) :
    ∃ pattern : MemberPattern, pattern.text = key ∧ pattern.names = names := by
  obtain ⟨inner, hkey, hpieces, -⟩ := parseDestructuring_eq_some_iff.mp h
  obtain ⟨before, after, haround⟩ := exists_blanks_around key.toList
  have hspaced : splitWhen (· == ',') inner ∈ Set.range (List.map SpacedName.chars) := by
    rw [Set.range_list_map]
    exact fun piece hmem => SpacedName.exists_of_isPatternName (hpieces piece hmem)
  obtain ⟨spaced, hspaced⟩ := hspaced
  have hne : spaced ≠ [] := by
    rintro rfl
    exact splitWhen_ne_nil inner hspaced.symm
  let pattern : MemberPattern := ⟨before, spaced, hne, after⟩
  have hinner : pattern.inner = inner := by rw [MemberPattern.inner, hspaced, intercalate_splitWhen]
  have htext : pattern.text = key := by
    rw [text, hinner, ← hkey, haround, String.ofList_toList]
  -- The key is the pattern's text, so reading it can give no names but the pattern's.
  have hnames := pattern.parseDestructuring_text
  rw [htext, h] at hnames
  exact ⟨pattern, htext, (Option.some.inj hnames).symm⟩

end MemberPattern

/-- A key of a `set` is read as names exactly if it is written as a pattern, and then as the names of the pattern, in
order and without blanks. However a pattern is spaced, each of its names is assigned the member of that name. Any other
key is assigned the whole value, as the name of a variable. -/
theorem keys_are_patterns_or_variables :
    (∀ (key : String) (names : List String), parseDestructuring key = some names ↔
      ∃ pattern : MemberPattern, pattern.text = key ∧ pattern.names = names) ∧
    (∀ pattern : MemberPattern, parseDestructuring pattern.text = some pattern.names ∧
      (∀ name ∈ pattern.names, ∀ c ∈ name.toList, isBlank c = false) ∧
      ∀ v w, Expander.assignments (.str pattern.text) v w =
        .ok (pattern.names.map fun name => (.str name, w.heap.member v name)) w) ∧
    ∀ key : String, (∀ pattern : MemberPattern, pattern.text ≠ key) →
      parseDestructuring key = none ∧ ∀ v w, Expander.assignments (.str key) v w = .ok [(.str key, v)] w := by
  refine ⟨fun key names => ⟨MemberPattern.exists_of_parseDestructuring, ?_⟩, fun pattern => ?_, fun key hother => ?_⟩
  · rintro ⟨pattern, rfl, rfl⟩
    exact pattern.parseDestructuring_text
  · have hread := pattern.parseDestructuring_text
    refine ⟨hread, fun name hname c => pattern.isBlank_of_mem_names hname, fun v w => ?_⟩
    rw [Expander.assignments_str, Heap.bound, hread, List.map_map]
    rfl
  · have hread : parseDestructuring key = none := by
      refine Option.eq_none_iff_forall_ne_some.mpr fun names hnames => ?_
      obtain ⟨pattern, htext, -⟩ := MemberPattern.exists_of_parseDestructuring hnames
      exact hother pattern htext
    refine ⟨hread, fun v w => ?_⟩
    rw [Expander.assignments_str, Heap.bound, hread]
    rfl

/-- Blanks and line breaks may surround two names and their comma. A comma with no name after it makes a variable. -/
theorem spaced_pair_is_read :
    parseDestructuring " \x7ba ,\n b_2\x7d " = some ["a", "b_2"] ∧
      ∀ v w, Expander.assignments (.str "\x7ba,\x7d") v w = .ok [(.str "\x7ba,\x7d", v)] w := by
  let blank : Blanks := ⟨[' '], List.all_eq_true.mp rfl⟩
  let noBlank : Blanks := ⟨[], List.all_eq_true.mp rfl⟩
  let lineBreak : Blanks := ⟨['\n', ' '], List.all_eq_true.mp rfl⟩
  let a : SpacedName := ⟨noBlank, ⟨'a', [], startsPatternName_iff.mp rfl, List.all_eq_true.mp rfl⟩, blank⟩
  let b : SpacedName := ⟨lineBreak, ⟨'b', ['_', '2'], startsPatternName_iff.mp rfl, List.all_eq_true.mp rfl⟩, noBlank⟩
  obtain ⟨hread, hpattern, hother⟩ := keys_are_patterns_or_variables
  refine ⟨(hpattern ⟨blank, [a, b], List.cons_ne_nil _ _, blank⟩).1, (hother _ fun pattern htext => ?_).2⟩
  have hnone : parseDestructuring "\x7ba,\x7d" = none := rfl
  have hsome := (hread _ pattern.names).mpr ⟨pattern, htext, rfl⟩
  exact Option.some_ne_none _ (hsome.symm.trans hnone)

end Colloquy

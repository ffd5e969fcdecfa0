import Colloquy.Console.EmojiTable
import Colloquy.Text.Case

/-!
# Emoji by name

A name between colons stands for an emoji: `:rocket:`. The endings `-text` and `-emoji` of the name
ask for one of its two presentations. An unknown name stays as it is.
-/

namespace Colloquy.Console

open Text

/-- Presentations that a name may ask for, each with the character that selects it. -/
def emojiVariants : List (String × Char) :=
  [("-emoji", Char.ofNat 0xfe0f), ("-text", Char.ofNat 0xfe0e)]

def emoji? (code : List Char) : Option (List Char) :=
  let name (cs : List Char) : Option (List Char) :=
    (emojiNames.lookup (toLower (String.ofList cs))).map String.toList
  match emojiVariants.find? fun (ending, _) => ending.toList.isSuffixOf code with
  | some (ending, selector) => (name (code.take (code.length - ending.length))).map (· ++ [selector])
  | none => name code

/-- Whether a character may stand in a name between colons. -/
def isEmojiPart (c : Char) : Bool := c != ':' && !isBlank c

private theorem length_lt_of_dropWhile_eq {p : Char → Bool} {c : Char} {cs after : List Char}
    (h : cs.dropWhile p = c :: after) : after.length < cs.length := by
  have := (List.dropWhile_sublist (l := cs) p).length_le
  rw [h, List.length_cons] at this
  omega

def expandEmoji (cs : List Char) : List Char :=
  match cs with
  | [] => []
  | c :: rest =>
    if c == ':' then
      let code := rest.takeWhile isEmojiPart
      match h : rest.dropWhile isEmojiPart with
      | ':' :: after =>
        have : after.length < rest.length := length_lt_of_dropWhile_eq h
        (emoji? code).getD (':' :: code ++ [':']) ++ expandEmoji after
      | _ => ':' :: expandEmoji rest
    else c :: expandEmoji rest
termination_by cs.length
decreasing_by all_goals simp_wf; try omega

end Colloquy.Console

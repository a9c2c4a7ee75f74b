import Parley.Conversation.Offer

/-!
# The screen

How a cycle of a conversation is written to the console, and how an answer picks an offer: by its
key, or by its number counted from zero.
-/

namespace Parley

/-- The mark behind an offer that warns of what it may lead to. -/
def Highlight.mark : Highlight → String
  | .plain => ""
  | .action => " *"
  | .helpless => " (!)"
  | .hostile => " (!!)"

namespace Screen

/-- The line of an offer. -/
def offer (o : Offer) : String :=
  "  " ++ o.hotkey.toString ++ ": " ++ o.text ++ o.highlight.mark ++ "\n"

/-- Who says what, and the offers. -/
def cycle (speaker line : String) (offers : List Offer) : String :=
  "\n" ++ speaker ++ ": " ++ line ++ "\n" ++ "".intercalate (offers.map offer)

/-- What stands in front of an answer. -/
def prompt : String := "> "

/-- What is said to an answer that picks nothing. -/
def refusal : String := "Pick one of the listed keys.\n"

/-- The question after a conversation. -/
def question : String := "\nTalk again? [y/N] "

/-- The first offer with a key. -/
def byKey? (offers : List Offer) : List Char → Option Nat
  | [c] => offers.findIdx? (·.hotkey = c)
  | _ => none

/-- The offer with a number. -/
def byNumber? (offers : List Offer) (answer : List Char) : Option Nat :=
  (Text.unsigned? answer).filter (· < offers.length)

/-- The offer that an answer picks; blanks around it do not matter. -/
def choice? (offers : List Offer) (answer : String) : Option Nat :=
  let answer := Text.trim answer.toList
  (byKey? offers answer).or (byNumber? offers answer)

theorem lt_length_of_byKey? {offers : List Offer} {answer : List Char} {i : Nat}
    (h : byKey? offers answer = some i) : i < offers.length := by
  match answer, h with
  | [_], h => exact (List.findIdx?_eq_some_iff_getElem.1 h).1

theorem lt_length_of_byNumber? {offers : List Offer} {answer : List Char} {i : Nat}
    (h : byNumber? offers answer = some i) : i < offers.length := by
  simpa using (Option.filter_eq_some_iff.1 h).2

/-- An answer never picks beyond the offers. -/
theorem lt_length_of_choice? {offers : List Offer} {answer : String} {i : Nat}
    (h : choice? offers answer = some i) : i < offers.length := by
  rcases Option.or_eq_some_iff.1 h with h | ⟨_, h⟩
  · exact lt_length_of_byKey? h
  · exact lt_length_of_byNumber? h

/-- Does an answer agree to another conversation? -/
def agrees (answer : String) : Bool :=
  let answer := Text.trim answer.toList
  answer = ['y'] || answer = ['Y']

end Screen

end Parley

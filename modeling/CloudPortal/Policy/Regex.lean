/-
CloudPortal/Policy/Regex.lean

The regular expressions of conditions: `validate_safe_regex` of `app/policy_engine/engine.py`.

The function searches the text of a pattern.  What the text means is the syntax tree that `re`
makes of it; here a tree keeps everything that was written (`Regex.text`), so that a repetition
of the tree is a place of the text (`Regex.infix_of_repetition`).  The search finds every
repetition that has a lower bound and stands right after its operand.  It does not find
`{,n}` (`unlimited_repetition`), and in verbose mode none that blanks come before; there is no
other gap (`repetition_limited`).
-/
import Mathlib.Data.List.Infix
import Mathlib.Data.List.TakeWhile

namespace CloudPortal.SafeRegex

abbrev Text := List Char

def int (digits : Text) : ℕ := Nat.ofDigitChars 10 digits 0

/-- A match of `\{(\d+)(?:,(\d*))?\}` where the text begins.  Digits are those of ASCII. -/
def bounds : Text → Option (Text × Option Text)
  | '{' :: text =>
    let lower := text.takeWhile Char.isDigit
    if lower = [] then none
    else match text.dropWhile Char.isDigit with
      | '}' :: _ => some (lower, none)
      | ',' :: text =>
        let upper := text.takeWhile Char.isDigit
        if (text.dropWhile Char.isDigit).head? = some '}' then some (lower, some upper) else none
      | _ => none
  | _ => none

/-- A match of `\)(?:[+*?]|\{\d+(?:,\d*)?\})`. -/
def quantifiedGroup : Text → Bool
  | ')' :: text => text.head?.any (· ∈ ['+', '*', '?']) || (bounds text).isSome
  | _ => false

/-- A match of `\\[1-9]`. -/
def backreference : Text → Bool
  | '\\' :: c :: _ => '1' ≤ c && c ≤ '9'
  | _ => false

def exceeds : Text × Option Text → Bool
  | (lower, upper) =>
    let upper := match upper with
      | none => int lower
      | some [] => 1001
      | some digits => int digits
    1000 < int lower || 1000 < upper

def unsafeTokens : List String := ["(?=", "(?!", "(?<=", "(?<!", "(?P=", "(?>"]

/-- `validate_safe_regex`; whether `re.compile` accepts a text is a parameter.  A match has one
`{`, its first character, so that `re.finditer` leaves none out. -/
def validateSafeRegex (compiles : Text → Bool) (text : Text) : Except String Text :=
  if text = [] then .error "Regex pattern cannot be empty"
  else if 256 < text.length then .error "Regex pattern is too long"
  else if text.tails.any fun text => unsafeTokens.any (·.toList.isPrefixOf text) then
    .error "Regex lookarounds/backtracking control are not supported"
  else if text.tails.any backreference then .error "Regex backreferences are not supported"
  else if text.tails.any quantifiedGroup then .error "Quantified regex groups are not supported"
  else if (text.tails.filterMap bounds).any exceeds then
    .error "Regex repetition limit cannot exceed 1000"
  else if compiles text then .ok text
  else .error "Invalid regex pattern"

/-! ### Syntax trees -/

/-- How a repetition is written. -/
inductive Quantifier
  | star
  | plus
  | optional
  | braces (lower : Text) (upper : Option Text) (h : ∀ c ∈ lower ++ upper.getD [], c.isDigit)

namespace Quantifier

def text : Quantifier → Text
  | star => ['*']
  | plus => ['+']
  | optional => ['?']
  | braces lower none _ => '{' :: (lower ++ ['}'])
  | braces lower (some upper) _ => '{' :: (lower ++ ',' :: (upper ++ ['}']))

/-- It is written `{,n}` or `{,}`. -/
def noLower : Quantifier → Bool
  | braces [] _ _ => true
  | _ => false

/-- The bounds that are written. -/
def explicit : Quantifier → List ℕ
  | braces lower upper _ => ((lower :: upper.toList).filter (· ≠ [])).map int
  | _ => []

end Quantifier

/-- What `re` reads, with all that was written. -/
inductive Regex
  | empty
  /-- Also `.`, `^`, `$`. -/
  | literal (c : Char)
  /-- After a backslash. -/
  | escape (text : Text)
  /-- Between brackets. -/
  | set (text : Text)
  /-- A comment, and blanks in verbose mode. -/
  | skipped (text : Text)
  /-- What opens it is `(`, `(?:`, `(?P<name>`, `(?(name)` or has flags. -/
  | group (opening : Text) (body : Regex)
  | seq (first second : Regex)
  | alt (first second : Regex)
  /-- With what is skipped before the operator, and `?` or `+` after it. -/
  | repetition (operand : Regex) (gap : Text) (quantifier : Quantifier) (mode : Text)

namespace Regex

def text : Regex → Text
  | empty => []
  | literal c => [c]
  | escape text => '\\' :: text
  | set text => '[' :: (text ++ [']'])
  | skipped text => text
  | group opening body => opening ++ body.text ++ [')']
  | seq first second => first.text ++ second.text
  | alt first second => first.text ++ '|' :: second.text
  | repetition operand gap quantifier mode => operand.text ++ gap ++ quantifier.text ++ mode

def isGroup : Regex → Bool
  | group _ _ => true
  | _ => false

/-- The repetitions: their operand, what is skipped after it, and the operator. -/
def repetitions : Regex → List (Regex × Text × Quantifier)
  | group _ body => body.repetitions
  | seq first second | alt first second => first.repetitions ++ second.repetitions
  | repetition operand gap quantifier _ => (operand, gap, quantifier) :: operand.repetitions
  | _ => []

theorem infix_of_repetition {regex operand : Regex} {gap : Text} {q : Quantifier}
    (h : (operand, gap, q) ∈ regex.repetitions) :
    operand.text ++ gap ++ q.text <:+: regex.text := by
  induction regex with
  | empty | literal | escape | set | skipped => cases h
  | group opening body ih => exact (ih h).trans ⟨opening, [')'], rfl⟩
  | seq first second ih ih' =>
    obtain h | h := List.mem_append.1 (by simpa only [repetitions] using h)
    · exact (ih h).trans (List.prefix_append ..).isInfix
    · exact (ih' h).trans (List.suffix_append ..).isInfix
  | alt first second ih ih' =>
    obtain h | h := List.mem_append.1 (by simpa only [repetitions] using h)
    · exact (ih h).trans (List.prefix_append ..).isInfix
    · exact (ih' h).trans ((List.suffix_cons ..).trans (List.suffix_append ..)).isInfix
  | repetition _ gap' q' mode ih =>
    rw [repetitions, List.mem_cons] at h
    obtain h | h := h
    · cases h
      exact (List.prefix_append ..).isInfix
    · exact (ih h).trans ⟨[], gap' ++ q'.text ++ mode, by simp [text]⟩

end Regex

/-! ### What the search finds -/

theorem digits_append {digits : Text} (h : ∀ c ∈ digits, c.isDigit) (stop : Char)
    (hstop : stop.isDigit = false) (rest : Text) :
    (digits ++ stop :: rest).takeWhile Char.isDigit = digits
      ∧ (digits ++ stop :: rest).dropWhile Char.isDigit = stop :: rest := by
  simp [List.takeWhile_append_of_pos h, List.dropWhile_append_of_pos h, hstop]

theorem bounds_text {lower : Text} {upper : Option Text}
    {h : ∀ c ∈ lower ++ upper.getD [], c.isDigit} (hlower : lower ≠ []) (rest : Text) :
    bounds ((Quantifier.braces lower upper h).text ++ rest) = some (lower, upper) := by
  obtain ⟨hl, hu⟩ := List.forall_mem_append.1 h
  cases upper with
  | none =>
    have hd := digits_append hl '}' rfl rest
    simp [bounds, Quantifier.text, hd, hlower]
  | some upper =>
    have hd := digits_append hl ',' rfl (upper ++ '}' :: rest)
    have hd' := digits_append hu '}' rfl rest
    simp_all [bounds, Quantifier.text]

theorem quantifiedGroup_text {q : Quantifier} (hlower : q.noLower = false) (rest : Text) :
    quantifiedGroup (')' :: (q.text ++ rest)) := by
  cases q with
  | star | plus | optional => rfl
  | braces lower upper h =>
    have hl : lower ≠ [] := by
      rintro rfl
      cases hlower
    rw [quantifiedGroup, bounds_text hl, Option.isSome_some, Bool.or_true]

theorem explicit_le {lower : Text} {upper : Option Text}
    {h : ∀ c ∈ lower ++ upper.getD [], c.isDigit} (hno : exceeds (lower, upper) = false) :
    ∀ n ∈ (Quantifier.braces lower upper h).explicit, n ≤ 1000 := by
  intro n hn
  obtain ⟨digits, hd, rfl⟩ := List.mem_map.1 hn
  obtain ⟨hd, -⟩ := List.mem_filter.1 hd
  rcases upper with _ | _ | ⟨d, ds⟩ <;> simp_all [exceeds]
  rcases hd with rfl | rfl
  · exact hno.1
  · exact hno.2

/-- A text that is accepted has none of the two matches anywhere. -/
theorem of_accepted {compiles : Text → Bool} {text tail : Text}
    (h : validateSafeRegex compiles text = .ok text) (ht : tail <:+ text) :
    quantifiedGroup tail = false ∧ ∀ found ∈ bounds tail, exceeds found = false := by
  have ht := (List.mem_tails _ _).2 ht
  unfold validateSafeRegex at h
  split_ifs at h with _ _ _ _ hgroup hbounds
  rw [List.any_eq_true] at hgroup hbounds
  refine ⟨Bool.eq_false_iff.2 fun hq => hgroup ⟨tail, ht, hq⟩, fun found hf => ?_⟩
  exact Bool.eq_false_iff.2 fun he => hbounds ⟨found, List.mem_filterMap.2 ⟨tail, ht, hf⟩, he⟩

section Accepted

variable {compiles : Text → Bool} {regex operand : Regex} {gap : Text} {q : Quantifier}
  (hacc : validateSafeRegex compiles regex.text = .ok regex.text)
  (hrepeats : (operand, gap, q) ∈ regex.repetitions) (hlower : q.noLower = false)
include hacc hrepeats hlower

/-- A repetition with a lower bound has bounds within the limit. -/
theorem explicit_le_of_accepted : ∀ n ∈ q.explicit, n ≤ 1000 := by
  obtain ⟨before, rest, htext⟩ := Regex.infix_of_repetition hrepeats
  cases q with
  | star | plus | optional => nofun
  | braces lower upper h =>
    have hl : lower ≠ [] := by
      rintro rfl
      cases hlower
    have ht : (Quantifier.braces lower upper h).text ++ rest <:+ regex.text :=
      ⟨before ++ (operand.text ++ gap), by simp [← htext]⟩
    exact explicit_le ((of_accepted hacc ht).2 _ (bounds_text hl rest))

/-- If nothing or a comment is between it and its operand, that is no group. -/
theorem not_isGroup_of_accepted (hgap : ∀ c ∈ gap.getLast?, c = ')') : operand.isGroup = false := by
  obtain ⟨before, rest, htext⟩ := Regex.infix_of_repetition hrepeats
  cases operand with
  | group opening body =>
    have hlast : ((Regex.group opening body).text ++ gap).getLast? = some ')' := by
      rw [List.getLast?_append]
      cases hg : gap.getLast? with
      | none => simp [Regex.text]
      | some c => rw [hgap c hg, Option.some_or]
    obtain ⟨inner, hinner⟩ := List.getLast?_eq_some_iff.1 hlast
    have ht : ')' :: (q.text ++ rest) <:+ regex.text :=
      ⟨before ++ inner, by simp [← htext, hinner]⟩
    have hq := (of_accepted hacc ht).1
    rw [quantifiedGroup_text hlower] at hq
    cases hq
  | _ => rfl

end Accepted

/-- The repetition is not applied to a group, and no bound that is written exceeds the limit. -/
def Limited (r : Regex × Text × Quantifier) : Prop :=
  (∀ n ∈ r.2.2.explicit, n ≤ 1000) ∧ r.1.isGroup = false

/-- Blanks or a comment of verbose mode are between the repetition and its operand. -/
def Apart (gap : Text) : Prop := ∃ c ∈ gap.getLast?, c ≠ ')'

/-- All repetitions of an accepted pattern are limited if and only if those are that are written
without a lower bound, and none that stands apart from its operand is applied to a group. -/
theorem repetition_limited (compiles : Text → Bool) (regex : Regex)
    (haccepted : validateSafeRegex compiles regex.text = .ok regex.text) :
    (∀ r ∈ regex.repetitions, Limited r)
      ↔ ∀ r ∈ regex.repetitions, (r.2.2.noLower → Limited r) ∧ (Apart r.2.1 → r.1.isGroup = false) := by
  constructor
  · exact fun h r hr => ⟨fun _ => h r hr, fun _ => (h r hr).2⟩
  rintro h ⟨operand, gap, q⟩ hr
  obtain ⟨hopen, hapart⟩ := h _ hr
  cases hlower : q.noLower with
  | true => exact hopen hlower
  | false =>
    refine ⟨explicit_le_of_accepted haccepted hr hlower, ?_⟩
    by_cases hgap : Apart gap
    · exact hapart hgap
    · refine not_isGroup_of_accepted haccepted hr hlower fun c hc => ?_
      by_contra hne
      exact hgap ⟨c, hc, hne⟩

/-- `a{2,3}(b)` -/
def limited : Regex :=
  .seq (.repetition (.literal 'a') [] (.braces ['2'] (some ['3']) (by simp)) [])
    (.group ['('] (.literal 'b'))

theorem repetition_limited_bounds :
    validateSafeRegex (fun _ => true) limited.text = .ok "a\x7b2,3\x7d(b)".toList
      ∧ ∀ r ∈ limited.repetitions, Limited r := by
  refine ⟨rfl, (repetition_limited (fun _ => true) limited rfl).2 fun r hr => ?_⟩
  obtain rfl := List.mem_singleton.1 hr
  exact ⟨nofun, fun _ => rfl⟩

/-- `(a){,2000}` -/
def repeatedGroup : Regex :=
  .repetition (.group ['('] (.literal 'a')) [] (.braces [] "2000".toList (by simp)) []

/-- The search needs a digit after the brace, `re` does not. -/
theorem unlimited_repetition :
    validateSafeRegex (fun _ => true) repeatedGroup.text = .ok "(a)\x7b,2000\x7d".toList
      ∧ ∃ operand q, (operand, [], q) ∈ repeatedGroup.repetitions ∧ operand.isGroup
        ∧ 2000 ∈ q.explicit :=
  ⟨rfl, _, _, List.mem_singleton_self _, rfl, by decide⟩

end CloudPortal.SafeRegex

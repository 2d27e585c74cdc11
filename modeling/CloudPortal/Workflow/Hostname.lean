/-
CloudPortal/Workflow/Hostname.lean

Names of machines: `_hostname` of `app/automation/service.py`.

The placeholders of a pattern are replaced one after the other, in the order in which a set
is iterated, and what has been inserted is searched for those that come later.  Where this
search finds none that the pattern itself does not have (`Foreign`), it is the replacement of all
placeholders at once.
-/
import Mathlib.Data.List.Infix
import Mathlib.Data.List.TakeWhile

namespace CloudPortal.Hostname

abbrev Text := List Char

/-- The name, where the text begins with a match of `{([a-z]+)}`. -/
def placeholder : Text → Option Text
  | '{' :: text =>
    let name := text.takeWhile Char.isLower
    if name ≠ [] ∧ (text.dropWhile Char.isLower).head? = some '}' then some name else none
  | _ => none

/-- `re.findall`; matches do not overlap, for only their first character is a brace `{`. -/
def required (pattern : Text) : List Text := pattern.tails.filterMap placeholder

def braced (name : Text) : Text := '{' :: (name ++ ['}'])

/-- `str.replace`; so many characters of a match are still to be left out. -/
def replace (old new : Text) : ℕ → Text → Text
  | _, [] => []
  | skip + 1, _ :: text => replace old new skip text
  | 0, c :: text =>
    if old.isPrefixOf (c :: text) then new ++ replace old new (old.length - 1) text
    else c :: replace old new 0 text

/-- Labels of letters, digits and inner hyphens. -/
def validHostname (hostname : Text) : Bool :=
  let plain (c : Char) : Bool := c.isLower || c.isDigit
  hostname.length ≤ 253 && (hostname.splitOn '.').all fun label => label.length ≤ 63
    && label.all (fun c => plain c || c = '-') && label.head?.any plain && label.getLast?.any plain

inductive Failure
  | missing (names : List Text)
  | notValid
  deriving DecidableEq

/-- The checks of `_hostname`, for a text that the pattern was made into. -/
def checked (values : Text → Option Text) (pattern hostname : Text) : Except Failure Text :=
  let missing := (required pattern).filter (values · = none)
  if missing ≠ [] then .error (.missing missing)
  else if validHostname hostname then .ok hostname
  else .error .notValid

variable (values : Text → Option Text)

def value (name : Text) : Text := (values name).getD []

/-- `_hostname`, with the order in which the set of placeholders is iterated.  The values are in
lower case, with the year, the number and the random text among them. -/
def hostname (keys : List Text) (pattern : Text) : Except Failure Text :=
  checked values pattern
    (keys.foldl (fun text key => replace (braced key) (value values key) 0 text) pattern)

/-- A character of a pattern, or one of its placeholders. -/
inductive Piece
  | char (c : Char)
  | hole (name : Text)
  deriving DecidableEq

/-- A pattern taken apart; so many characters of a placeholder are still to be left out. -/
def pieces : ℕ → Text → List Piece
  | _, [] => []
  | skip + 1, _ :: text => pieces skip text
  | 0, c :: text =>
    match placeholder (c :: text) with
    | some name => .hole name :: pieces (name.length + 1) text
    | none => .char c :: pieces 0 text

/-- What is there when some placeholders have been replaced. -/
def Piece.after (done : List Text) : Piece → Text
  | .char c => [c]
  | .hole name => if name ∈ done then value values name else braced name

def Piece.filled : Piece → Text
  | .char c => [c]
  | .hole name => value values name

/-- The placeholders replaced at once. -/
def simultaneous (pattern : Text) : Text := (pieces 0 pattern).flatMap (Piece.filled values)

/-- The text of a placeholder comes up where the pattern does not have it, when the others are
replaced. -/
def Foreign (pattern key : Text) : Prop :=
  ∃ run, run <:+: pieces 0 pattern ∧ .hole key ∉ run ∧ braced key <:+: run.flatMap (Piece.filled values)

variable {values} {name key new chars rest pattern : Text} {done keys : List Text}

/-! ### Patterns -/

theorem placeholder_eq_some {text : Text} (h : placeholder text = some name) :
    ∃ rest, text = braced name ++ rest ∧ ∀ c ∈ name, c.isLower := by
  unfold placeholder at h
  split at h
  · next text =>
    dsimp only at h
    split at h
    · next hname =>
      cases h
      obtain ⟨rest, hrest⟩ := List.head?_eq_some_iff.1 hname.2
      refine ⟨rest, ?_, fun c => List.mem_takeWhile_imp⟩
      have hsplit : text.takeWhile Char.isLower ++ text.dropWhile Char.isLower = text :=
        List.takeWhile_append_dropWhile
      rw [hrest] at hsplit
      simp [braced, hsplit]
    · cases h
  · cases h

/-- The pieces of a pattern make it up, and its holes are the placeholders that are found. -/
theorem pieces_spec (values : Text → Option Text) (skip : ℕ) (pattern : Text) :
    (pieces skip pattern).flatMap (Piece.after values []) = pattern.drop skip
      ∧ ∀ name, .hole name ∈ pieces skip pattern → name ∈ required pattern := by
  induction pattern generalizing skip with
  | nil => exact ⟨by simp [pieces], nofun⟩
  | cons c text ih =>
    have hmore {name : Text} (h : name ∈ required text) : name ∈ required (c :: text) := by
      obtain ⟨tail, ht, hname⟩ := List.mem_filterMap.1 h
      refine List.mem_filterMap.2 ⟨tail, ?_, hname⟩
      rw [List.mem_tails] at ht ⊢
      exact ht.trans (List.suffix_cons c text)
    cases skip with
    | succ skip => exact ⟨(ih skip).1, fun name h => hmore ((ih skip).2 name h)⟩
    | zero =>
      rw [pieces]
      split
      · next name hname =>
        obtain ⟨rest, htext, -⟩ := placeholder_eq_some hname
        have hdrop : text.drop (name.length + 1) = rest := by
          have htext : text = name ++ ['}'] ++ rest := (List.cons.inj htext).2
          rw [htext, List.drop_append_of_le_length (by simp)]
          simp
        refine ⟨?_, fun other h => ?_⟩
        · rw [List.flatMap_cons, (ih _).1, hdrop]
          exact htext.symm
        · rcases List.mem_cons.1 h with h | h
          · cases h
            exact List.mem_filterMap.2 ⟨c :: text, by simp, hname⟩
          · exact hmore ((ih _).2 other h)
      · refine ⟨congrArg (c :: ·) (ih 0).1, fun other h => ?_⟩
        rcases List.mem_cons.1 h with h | h
        · cases h
        · exact hmore ((ih 0).2 other h)

theorem lower_of_required (h : name ∈ required pattern) : ∀ c ∈ name, c.isLower := by
  obtain ⟨text, -, h⟩ := List.mem_filterMap.1 h
  exact (placeholder_eq_some h).choose_spec.2

/-! ### Replacements -/

theorem replace_skip {old : Text} :
    replace old new chars.length (chars ++ rest) = replace old new 0 rest := by
  induction chars with
  | nil => rfl
  | cons c chars ih => exact ih

/-- A text in which no match begins stays. -/
theorem replace_pass {old : Text}
    (h : ∀ s, s ≠ [] → s <:+ chars → ¬old <+: s ++ rest) :
    replace old new 0 (chars ++ rest) = chars ++ replace old new 0 rest := by
  induction chars with
  | nil => rfl
  | cons c chars ih =>
    have hno : ¬old.isPrefixOf (c :: (chars ++ rest)) := by
      rw [List.isPrefixOf_iff_prefix]
      exact h (c :: chars) (by simp) (List.suffix_refl _)
    rw [List.cons_append, replace, if_neg hno, List.cons_append,
      ih fun s hs ht => h s hs (ht.trans (List.suffix_cons c chars))]

theorem takeWhile_name (h : ∀ c ∈ name, c.isLower) (rest : Text) :
    (name ++ ['}'] ++ rest).takeWhile Char.isLower = name := by
  simp [List.takeWhile_append_of_pos h]

/-- Where a placeholder begins, only itself is found. -/
theorem eq_of_braced_isPrefix (hk : ∀ c ∈ key, c.isLower) (h : ∀ c ∈ name, c.isLower)
    (hp : braced key <+: braced name ++ rest) : key = name := by
  obtain ⟨more, he⟩ := hp
  have he : key ++ ['}'] ++ more = name ++ ['}'] ++ rest := (List.cons.inj he).2
  rw [← takeWhile_name h rest, ← he, takeWhile_name hk]

/-- An opening brace is nowhere else in a placeholder. -/
theorem no_brace (h : ∀ c ∈ name, c.isLower) : '{' ∉ name ++ ['}'] := by
  rw [List.mem_append]
  rintro (hm | hm)
  · cases h _ hm
  · cases List.mem_singleton.1 hm

theorem replace_self (key : Text) :
    replace (braced key) new 0 (braced key ++ rest) = new ++ replace (braced key) new 0 rest := by
  have hp : (braced key).isPrefixOf ('{' :: (key ++ ['}'] ++ rest)) :=
    List.isPrefixOf_iff_prefix.2 (List.prefix_append (braced key) rest)
  show replace _ _ 0 ('{' :: (key ++ ['}'] ++ rest)) = _
  rw [replace, if_pos hp]
  exact congrArg (new ++ ·) replace_skip

/-! ### Foreign placeholders -/

/-- The piece is as it is in the end. -/
def Piece.settled (done : List Text) : Piece → Prop
  | .char _ => True
  | .hole name => name ∈ done

theorem Piece.after_settled {piece : Piece} (h : piece.settled done) :
    piece.after values done = piece.filled values := by
  cases piece with
  | char c => rfl
  | hole name => exact if_pos h

theorem Piece.after_hole (h : ¬(hole name).settled done) :
    (hole name).after values done = braced name :=
  if_neg h

theorem hole_not_settled (hkey : key ∉ done) {run : List Piece} (h : ∀ p ∈ run, p.settled done) :
    .hole key ∉ run := fun hm => hkey (h _ hm)

/-- A text without an opening brace ends before the next placeholder. -/
theorem exists_settled_run {text : Text} (hno : '{' ∉ text) (ps : List Piece)
    (h : text <+: ps.flatMap (Piece.after values done)) :
    ∃ run, run <+: ps ∧ (∀ p ∈ run, p.settled done)
      ∧ text <+: run.flatMap (Piece.filled values) := by
  induction ps generalizing text with
  | nil => exact ⟨[], List.prefix_refl _, nofun, h⟩
  | cons piece ps ih =>
    by_cases hs : piece.settled done
    · rw [List.flatMap_cons, Piece.after_settled hs] at h
      -- the text ends in this piece, or goes on behind it
      rcases List.prefix_or_prefix_of_prefix h (List.prefix_append ..) with hp | ⟨more, rfl⟩
      · exact ⟨[piece], by simp, by simpa using hs, by simpa using hp⟩
      · obtain ⟨run, hrun, hsettled, hmore⟩ := ih (fun hm => hno (List.mem_append_right _ hm))
          ((List.prefix_append_right_inj _).1 h)
        refine ⟨piece :: run, List.cons_prefix_cons.2 ⟨rfl, hrun⟩, ?_, ?_⟩
        · exact List.forall_mem_cons.2 ⟨hs, hsettled⟩
        · rw [List.flatMap_cons]
          exact (List.prefix_append_right_inj _).2 hmore
    · cases piece with
      | char c => exact absurd trivial hs
      | hole name =>
        cases text with
        | nil => exact ⟨[], List.nil_prefix, nofun, List.nil_prefix⟩
        | cons c text =>
          rw [List.flatMap_cons, Piece.after_hole hs] at h
          obtain ⟨rfl, -⟩ := List.cons_prefix_cons.1 h
          exact absurd List.mem_cons_self hno

/-- A match that does not begin at its own placeholder is a foreign one. -/
theorem foreign_of_prefix (hk : ∀ c ∈ key, c.isLower) (hkey : key ∉ done) {piece : Piece}
    {before ps : List Piece} (hps : pieces 0 pattern = before ++ piece :: ps)
    (hlower : ∀ name, piece = .hole name → ∀ c ∈ name, c.isLower) (hne : piece ≠ .hole key)
    {s : Text} (hs : s ≠ []) (hsuffix : s <:+ piece.after values done)
    (hp : braced key <+: s ++ ps.flatMap (Piece.after values done)) :
    Foreign values pattern key := by
  cases s with
  | nil => exact absurd rfl hs
  | cons c s =>
  obtain ⟨rfl, hrest⟩ : '{' = c ∧ key ++ ['}'] <+: s ++ ps.flatMap (Piece.after values done) :=
    List.cons_prefix_cons.1 hp
  by_cases hset : piece.settled done
  · obtain ⟨front, hfront⟩ := hsuffix
    rw [Piece.after_settled hset] at hfront
    -- the rest of the match is in this piece, or goes on into settled ones
    obtain ⟨run, hrun, hsettled, hmatch⟩ : ∃ run, run <+: ps ∧ (∀ p ∈ run, p.settled done)
        ∧ key ++ ['}'] <+: s ++ run.flatMap (Piece.filled values) := by
      rcases List.prefix_or_prefix_of_prefix hrest (List.prefix_append ..) with hin | ⟨more, hmore⟩
      · exact ⟨[], List.nil_prefix, nofun, by simpa using hin⟩
      · rw [← hmore] at hrest ⊢
        have hno : '{' ∉ more := fun hm =>
          no_brace hk (hmore ▸ List.mem_append_right s hm)
        obtain ⟨run, hrun, hsettled, hm⟩ :=
          exists_settled_run hno ps ((List.prefix_append_right_inj _).1 hrest)
        exact ⟨run, hrun, hsettled, (List.prefix_append_right_inj _).2 hm⟩
    obtain ⟨after, hafter⟩ := hrun
    refine ⟨piece :: run, ⟨before, after, by rw [hps, ← hafter]; simp⟩,
      hole_not_settled hkey (List.forall_mem_cons.2 ⟨hset, hsettled⟩), ?_⟩
    rw [List.flatMap_cons, ← hfront, List.append_assoc]
    obtain ⟨tail, htail⟩ := hmatch
    exact ⟨front, tail, by simp [braced, ← htail]⟩
  · cases piece with
    | char c => exact absurd trivial hset
    | hole name =>
      -- the only brace of a placeholder is its first character
      rw [Piece.after_hole hset] at hsuffix
      rcases List.suffix_cons_iff.1 hsuffix with he | hin
      · have hs : s = name ++ ['}'] := (List.cons.inj he).2
        subst hs
        exact absurd (congrArg Piece.hole (eq_of_braced_isPrefix hk (hlower name rfl) hp)).symm hne
      · exact absurd (hin.mem List.mem_cons_self) (no_brace (hlower name rfl))

/-- A replacement that finds no foreign match fills the holes of its placeholder. -/
theorem replace_after (hk : ∀ c ∈ key, c.isLower) (hkey : key ∉ done)
    (hno : ¬Foreign values pattern key) (before : List Piece) {ps : List Piece}
    (hps : pieces 0 pattern = before ++ ps) :
    replace (braced key) (value values key) 0 (ps.flatMap (Piece.after values done))
      = ps.flatMap (Piece.after values (key :: done)) := by
  induction ps generalizing before with
  | nil => rfl
  | cons piece ps ih =>
    have ih := ih (before ++ [piece]) (by rw [hps]; simp)
    rw [List.flatMap_cons, List.flatMap_cons, ← ih]
    by_cases he : piece = .hole key
    · subst he
      rw [Piece.after, if_neg hkey, Piece.after, if_pos List.mem_cons_self]
      exact replace_self key
    · have hsame : piece.after values (key :: done) = piece.after values done := by
        cases piece with
        | char c => rfl
        | hole name =>
          have hn : name ≠ key := fun hn => he (by rw [hn])
          simp [Piece.after, hn]
      rw [hsame]
      refine replace_pass fun s hs hsuffix hp => hno ?_
      refine foreign_of_prefix hk hkey hps (fun name hname => ?_) he hs hsuffix hp
      subst hname
      exact lower_of_required ((pieces_spec values 0 pattern).2 name (by rw [hps]; simp))

theorem foldl_replace (hkeys : ∀ key ∈ keys, (∀ c ∈ key, c.isLower) ∧ ¬Foreign values pattern key)
    (hnodup : keys.Nodup) (done : List Text) (hd : ∀ key ∈ keys, key ∉ done) :
    keys.foldl (fun text key => replace (braced key) (value values key) 0 text)
        ((pieces 0 pattern).flatMap (Piece.after values done))
      = (pieces 0 pattern).flatMap (Piece.after values (keys.reverse ++ done)) := by
  induction keys generalizing done with
  | nil => rfl
  | cons key keys ih =>
    obtain ⟨hk, hkeys⟩ := List.forall_mem_cons.1 hkeys
    obtain ⟨hfresh, hnodup⟩ := List.nodup_cons.1 hnodup
    rw [List.foldl_cons, replace_after hk.1 (hd key List.mem_cons_self) hk.2 [] rfl,
      ih hkeys hnodup _ fun other ho => ?_, List.reverse_cons, List.append_assoc]
    · rfl
    · rw [List.mem_cons, not_or]
      exact ⟨fun he => hfresh (he ▸ ho), hd other (List.mem_cons_of_mem _ ho)⟩

/-- Where the text of no placeholder comes up in what is inserted for the others, or between that and
the rest of the pattern, the placeholders are replaced at once, in whatever order the set is
iterated. -/
theorem hostname_simultaneous (pattern : Text) (keys : List Text) (hnodup : keys.Nodup)
    (hkeys : ∀ name, name ∈ keys ↔ name ∈ required pattern)
    (hforeign : ∀ name ∈ keys, ¬Foreign values pattern name) :
    hostname values keys pattern = checked values pattern (simultaneous values pattern) := by
  refine congrArg (checked values _) ?_
  have hstart := (pieces_spec values 0 pattern).1
  rw [List.drop_zero] at hstart
  have hrun := foldl_replace (fun key hk =>
    ⟨lower_of_required ((hkeys key).1 hk), hforeign key hk⟩) hnodup [] (by simp)
  rw [hstart] at hrun
  rw [hrun]
  refine List.flatMap_congr fun piece hpiece => Piece.after_settled ?_
  cases piece with
  | char c => trivial
  | hole name =>
    rw [List.append_nil]
    exact List.mem_reverse.2 ((hkeys name).2 ((pieces_spec values 0 pattern).2 name hpiece))

/-- `{a}-{b}` -/
def pair : Text := "\x7ba\x7d-\x7bb\x7d".toList

/-- A brace in a value that opens no placeholder. -/
theorem hostname_simultaneous_pair :
    let values (_ : Text) := some ['{']
    hostname values (required pair) pair = checked values pair (simultaneous values pair) := by
  refine hostname_simultaneous pair _ (by decide) (fun _ => .rfl) ?_
  rintro name hname ⟨run, hrun, -, hfound⟩
  -- there is no closing brace in what is inserted
  have hclose : '}' ∈ run.flatMap (Piece.filled fun _ => some ['{']) :=
    hfound.mem (by simp [braced])
  have hall : '}' ∉ (pieces 0 pair).flatMap (Piece.filled fun _ => some ['{']) := by decide
  obtain ⟨piece, hpiece, hin⟩ := List.mem_flatMap.1 hclose
  exact hall (List.mem_flatMap.2 ⟨piece, hrun.mem hpiece, hin⟩)

/-- The value of `a` has the text of the other placeholder. -/
theorem hostname_depends_on_order :
    let values (name : Text) := some (if name = ['a'] then "\x7bb\x7d".toList else ['x'])
    hostname values [['a'], ['b']] pair = .ok "x-x".toList
      ∧ hostname values [['b'], ['a']] pair = .error .notValid
      ∧ checked values pair (simultaneous values pair) = .error .notValid := by
  decide

end CloudPortal.Hostname

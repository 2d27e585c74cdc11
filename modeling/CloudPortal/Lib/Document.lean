/-
CloudPortal/Lib/Document.lean

Documents as a dynamic language has them: values that are null, booleans, numbers, texts,
lists and dictionaries, with truth, equality, conversions and dotted paths into them.

Dictionaries are lists of entries; `get` reads the first entry of a key and `set` replaces it
in place.  A write to a path makes dictionaries on the way where there are none
(`setPath`).  `getPath_setPath` says what such a write can do to another path that
is not above or below it: leave the value as it is, or make it go away.

Two dictionaries agree apart from a path (`Agree`) if they are the same once what is at the path
is replaced by null (`hide`).  A read of a path that is neither above nor below the hidden one
gives the same value in both (`Agree.getPath`), and every write, wherever it goes, leaves them in
agreement (`Agree.setPath`).

What a runtime does beyond the data (attributes of values, the text of a float, the
parsing of numbers) is a parameter, `Runtime`.
-/
import Mathlib.Algebra.Order.Ring.Rat
import Mathlib.Data.List.Basic

namespace Document

/-! ### Numbers -/

/-- What a float can be. -/
inductive Number
  | finite (value : ℚ)
  | nan
  | infinity (negative : Bool)
  deriving DecidableEq, Repr

/-- Comparisons with a value that is not a number are false. -/
def Number.lt : Number → Number → Bool
  | .nan, _ | _, .nan => false
  | .finite x, .finite y => x < y
  | .finite _, .infinity negative => !negative
  | .infinity negative, .finite _ => negative
  | .infinity x, .infinity y => x && !y

def Number.eq : Number → Number → Bool
  | .nan, _ | _, .nan => false
  | x, y => x = y

def Number.le (x y : Number) : Bool := x.lt y || x.eq y

/-! ### Values -/

inductive Value
  | null
  | flag (value : Bool)
  | int (value : ℤ)
  | float (value : Number)
  | text (value : String)
  | list (items : List Value)
  | dict (entries : List (String × Value))
  deriving Repr

abbrev Entries := List (String × Value)

/-- The exceptions that conversions and comparisons raise. -/
inductive Raised
  | typeError | valueError | overflowError | keyError
  deriving DecidableEq, Repr

/-- What the interpreter does with values. -/
structure Runtime where
  /-- `str()` of floats, lists and dictionaries -/
  repr : Value → String
  /-- `float()` of an integer; it may be too large -/
  floatInt : ℤ → Except Raised Number
  /-- `float()` of a text that is a number -/
  floatText : String → Option Number
  /-- `int()` of a value -/
  toInt : Value → Except Raised ℤ
  /-- attributes of values that are not dictionaries -/
  getattr : Value → String → Option Value
  /-- `str.strip()` -/
  strip : String → String
  /-- `re.search`, if the pattern is safe -/
  search : Value → String → Bool
  /-- an address is in a network, if both can be read -/
  inNetwork : String → String → Option Bool
  /-- an instant in ISO format, in microseconds -/
  fromIso : String → Option ℤ
  floatInt_exact : ∀ n : ℤ, |n| ≤ 2 ^ 53 → floatInt n = .ok (.finite n)
  toInt_int : ∀ n : ℤ, toInt (.int n) = .ok n

/-- A runtime without attributes, patterns, networks and dates, in which integers are exact. -/
def Runtime.plain : Runtime where
  repr _ := ""
  floatInt n := .ok (.finite n)
  floatText _ := none
  toInt
    | .int n => .ok n
    | _ => .error .typeError
  getattr _ _ := none
  strip := id
  search _ _ := false
  inNetwork _ _ := none
  fromIso _ := none
  floatInt_exact _ _ := rfl
  toInt_int _ := rfl

namespace Value

/-- `bool()`. -/
def truthy : Value → Bool
  | .null => false
  | .flag value => value
  | .int value => value ≠ 0
  | .float value => value ≠ .finite 0
  | .text value => value ≠ ""
  | .list items => !items.isEmpty
  | .dict entries => !entries.isEmpty

/-- The number that a value is equal to. -/
def numeric : Value → Option Number
  | .flag value => some (.finite (if value then 1 else 0))
  | .int value => some (.finite value)
  | .float value => some value
  | _ => none

mutual

/-- `==`. -/
def eq : Value → Value → Bool
  | .null, .null => true
  | .text x, .text y => x = y
  | .list xs, .list ys => eqList xs ys
  | .dict xs, .dict ys => eqEntries xs ys && ys.all fun entry => (xs.lookup entry.1).isSome
  | x, y =>
    match x.numeric, y.numeric with
    | some x, some y => x.eq y
    | _, _ => false

def eqList : List Value → List Value → Bool
  | [], [] => true
  | x :: xs, y :: ys => eq x y && eqList xs ys
  | _, _ => false

/-- Every entry of the first dictionary is in the second one. -/
def eqEntries : List (String × Value) → List (String × Value) → Bool
  | [], _ => true
  | (key, x) :: xs, ys =>
    (match ys.lookup key with
      | some y => eq x y
      | none => false) && eqEntries xs ys

end

/-- `str()`. -/
def str (rt : Runtime) : Value → String
  | .null => "None"
  | .flag value => if value then "True" else "False"
  | .int value => toString value
  | .text value => value
  | value => rt.repr value

/-- A value that is a list stands for its items, a missing one for nothing. -/
def sequence : Value → List Value
  | .null => []
  | .list items => items
  | value => [value]

/-- `list(value or [])`. -/
def items : Value → Except Raised (List Value)
  | .text value => .ok (value.toList.map fun c => .text (String.singleton c))
  | .list items => .ok items
  | .dict entries => .ok (entries.map fun entry => .text entry.1)
  | value => if value.truthy then .error .typeError else .ok []

/-- Lists and dictionaries cannot be put into a set. -/
def hashable : Value → Bool
  | .list _ | .dict _ => false
  | _ => true

/-- A set of values. -/
def toSet (values : List Value) : Except Raised (List Value) :=
  if values.all hashable then .ok values else .error .typeError

def mem (value : Value) (values : List Value) : Bool := values.any (eq value)

/-- A text is part of another one. -/
def hasPart (part whole : List Char) : Bool := whole.tails.any part.isPrefixOf

/-- `value in container`; `none` if the container is none. -/
def within (value : Value) : Value → Option Bool
  | .text whole =>
    match value with
    | .text part => some (hasPart part.toList whole.toList)
    | _ => none
  | .list items => some (value.mem items)
  | .dict entries =>
    if value.hashable then
      some (match value with
        | .text key => (entries.lookup key).isSome
        | _ => false)
    else none
  | _ => none

/-- `len()`. -/
def length : Value → Option ℕ
  | .text value => some value.length
  | .list items => some items.length
  | .dict entries => some entries.length
  | _ => none

/-- A float, but not of a boolean. -/
def number (rt : Runtime) : Value → Except Raised Number
  | .flag _ => .error .valueError
  | .int value => rt.floatInt value
  | .float value => .ok value
  | .text value =>
    match rt.floatText value with
    | some number => .ok number
    | none => .error .valueError
  | _ => .error .typeError

end Value

/-- `except (TypeError, ValueError)`: other exceptions go on. -/
def caught {α : Type} : Except Raised α → Except Raised (Option α)
  | .ok value => .ok (some value)
  | .error .typeError | .error .valueError => .ok none
  | .error raised => .error raised

/-! ### Dictionaries -/

namespace Entries

def get (entries : Entries) (key : String) : Option Value := entries.lookup key

/-- Replace the entry of the key, or add one. -/
def set (key : String) (value : Value) : Entries → Entries
  | [] => [(key, value)]
  | (key', value') :: entries =>
    if key' = key then (key, value) :: entries else (key', value') :: set key value entries

theorem get_set (es : Entries) (key key' : String) (val : Value) :
    get (set key val es) key' = if key' = key then some val else get es key' := by
  induction es with
  | nil =>
    by_cases hkey : key' = key
    · simp [set, get, hkey]
    · simp [set, get, List.lookup_cons, beq_false_of_ne hkey, hkey]
  | cons ent es ih =>
    obtain ⟨k, v⟩ := ent
    simp only [set, get] at ih ⊢
    by_cases hk : k = key
    · subst hk
      rw [if_pos rfl, List.lookup_cons, List.lookup_cons]
      by_cases hkey : key' = k <;> simp [hkey, beq_eq_decide]
    rw [if_neg hk, List.lookup_cons, List.lookup_cons]
    by_cases hkey : key' = k
    · subst hkey
      simp [hk]
    · rw [beq_false_of_ne hkey]
      exact ih

theorem get_set_self (es : Entries) (key : String) (v : Value) :
    get (set key v es) key = some v := by
  rw [get_set, if_pos rfl]

variable {key key' : String} {es : Entries}

theorem set_get {val : Value} (h : es.get key = some val) :
    es.set key val = es := by
  induction es with
  | nil => cases h
  | cons ent es ih =>
    obtain ⟨k, v⟩ := ent
    simp only [get, List.lookup_cons] at h ih
    by_cases hk : key = k
    · subst hk
      simp only [BEq.rfl, Option.some.injEq] at h
      subst h
      simp [set]
    · rw [beq_false_of_ne hk] at h
      simp [set, Ne.symm hk, ih h]

theorem get_set_of_ne (h : key' ≠ key) (es : Entries) (val : Value) :
    get (set key val es) key' = get es key' := by
  rw [get_set, if_neg h]

/-- The keys of a dictionary. -/
def keys (entries : Entries) : List String := entries.map (·.1)

theorem get_eq_none (h : key ∉ es.keys) : es.get key = none := by
  refine List.lookup_eq_none_iff.2 fun ent hentry => ?_
  exact bne_iff_ne.2 fun hk => h (List.mem_map.2 ⟨ent, hentry, hk.symm⟩)

theorem mem_of_get {val : Value} (h : es.get key = some val) : (key, val) ∈ es := by
  obtain ⟨before, after, rfl, -⟩ := List.lookup_eq_some_iff.1 h
  exact List.mem_append_right _ List.mem_cons_self

theorem keys_set {val : Value} (h : key' ∈ (es.set key val).keys) :
    key' = key ∨ key' ∈ es.keys := by
  induction es with
  | nil => exact .inl (by simpa [set, keys] using h)
  | cons ent es ih =>
    obtain ⟨k, v⟩ := ent
    simp only [set, keys] at h ih ⊢
    split at h
    · next hk =>
      subst hk
      rcases List.mem_cons.1 h with h | h
      · exact .inl h
      · exact .inr (List.mem_cons_of_mem _ h)
    · rcases List.mem_cons.1 h with h | h
      · exact .inr (h ▸ List.mem_cons_self)
      · exact (ih h).imp_right (List.mem_cons_of_mem _)

/-- The dictionary under a key, or an empty one. -/
def inner (entries : Entries) (key : String) : Entries :=
  match entries.get key with
  | some (.dict below) => below
  | _ => []

end Entries

/-! ### Paths -/

/-- The parts of a dotted path; empty ones do not count. -/
def splitPath (path : String) : List String :=
  ((path.toList.splitOn '.').map String.ofList).filter (· ≠ "")

/-- The index that a part of a path is. -/
def index? (part : String) : Option ℕ :=
  if part.toList.all Char.isDigit && part ≠ "" then part.toNat? else none

/-- Go down a path; `none` if there is nothing. -/
def getPath (rt : Runtime) : List String → Value → Option Value
  | [], value => some value
  | part :: parts, .dict entries => (entries.lookup part).bind (getPath rt parts)
  | part :: parts, .list items =>
    match index? part with
    | some i => (items[i]?).bind (getPath rt parts)
    | none => (rt.getattr (.list items) part).bind (getPath rt parts)
  | part :: parts, value => (rt.getattr value part).bind (getPath rt parts)

/-- Write a value; dictionaries are made on the way where there are none.  With `onlyMissing` a
value that is there and not null stays.  The flag says whether something was written. -/
def setPath (onlyMissing : Bool) (value : Value) : List String → Entries → Entries × Bool
  | [], entries => (entries, false)
  | [leaf], entries =>
    match onlyMissing, entries.get leaf with
    | true, some .null | true, none | false, _ => (entries.set leaf value, true)
    | true, some _ => (entries, false)
  | part :: parts, entries =>
    let (below, changed) := setPath onlyMissing value parts (entries.inner part)
    (entries.set part (.dict below), changed)

variable {rt : Runtime} {om : Bool} {val : Value}

/-- A write to a leaf happens, or there is a value that stays. -/
theorem setPath_leaf (om : Bool) (val : Value) (leaf : String) (es : Entries) :
    (setPath om val [leaf] es).1 = es.set leaf val
        ∧ (om = true → es.get leaf = none ∨ es.get leaf = some .null)
      ∨ (setPath om val [leaf] es).1 = es ∧ om = true
        ∧ ∃ there, es.get leaf = some there ∧ there ≠ .null := by
  cases om with
  | false => exact .inl ⟨rfl, nofun⟩
  | true =>
    unfold setPath
    cases hg : es.get leaf with
    | none => exact .inl ⟨rfl, fun _ => .inl rfl⟩
    | some there =>
      cases there with
      | null => exact .inl ⟨rfl, fun _ => .inr rfl⟩
      | _ => exact .inr ⟨rfl, rfl, _, rfl, nofun⟩

theorem getPath_dict_cons (es : Entries) (part : String) (parts : List String) :
    getPath rt (part :: parts) (.dict es) = (es.get part).bind (getPath rt parts) := rfl

/-- A write changes the entry of its first part only. -/
theorem get_setPath_of_ne {part key : String} (h : key ≠ part) (parts : List String)
    (es : Entries) :
    (setPath om val (part :: parts) es).1.get key = es.get key := by
  cases parts with
  | nil =>
    rcases setPath_leaf om val part es with ⟨hset, -⟩ | ⟨hs, -⟩
    · rw [hset, Entries.get_set_of_ne h]
    · rw [hs]
  | cons second parts => exact Entries.get_set_of_ne h _ _

/-- What stands on the way to the last part of a path is a dictionary or null. -/
def clearWay : List String → Entries → Bool
  | part :: second :: parts, entries =>
    (match entries.get part with
      | none | some .null | some (.dict _) => true
      | some _ => false) && clearWay (second :: parts) (entries.inner part)
  | _, _ => true

section Missing

variable {wr read : List String} {es : Entries} {there : Value}

theorem getPath_null (h : getPath .plain read .null = some there) : there = .null := by
  cases read with
  | nil => exact (Option.some.inj h).symm
  | cons => cases h

theorem getPath_empty (h : getPath .plain read (.dict []) = some there) : there = .dict [] := by
  cases read with
  | nil => exact (Option.some.inj h).symm
  | cons => cases h

/-- Something that is there is reached through dictionaries. -/
theorem get_of_clearWay {part second : String} {parts : List String}
    (hclear : clearWay (part :: second :: parts) es)
    (h : getPath .plain (part :: read) (.dict es) = some there) (hthere : there ≠ .null) :
    es.get part = some (.dict (es.inner part)) := by
  rw [getPath_dict_cons] at h
  unfold clearWay at hclear
  unfold Entries.inner
  cases hg : es.get part with
  | none =>
    rw [hg] at h
    cases h
  | some found =>
    rw [hg] at h hclear
    cases found with
    | dict below => rfl
    | null => exact absurd (getPath_null h) hthere
    | _ => cases hclear

theorem setPath_leaf_of_present {leaf : String}
    (h : getPath .plain (leaf :: read) (.dict es) = some there) (hthere : there ≠ .null) :
    (setPath true val [leaf] es).1 = es := by
  rcases setPath_leaf true val leaf es with ⟨-, hmissing⟩ | ⟨hs, -⟩
  · rw [getPath_dict_cons] at h
    rcases hmissing rfl with hg | hg
    · rw [hg] at h
      cases h
    · rw [hg] at h
      exact absurd (getPath_null h) hthere
  · exact hs

/-- A write to what is missing changes nothing if something is there. -/
theorem setPath_of_present (hclear : clearWay wr es)
    (h : getPath .plain wr (.dict es) = some there) (hthere : there ≠ .null) :
    (setPath true val wr es).1 = es := by
  induction wr generalizing es with
  | nil => rfl
  | cons part parts ih =>
    cases parts with
    | nil => exact setPath_leaf_of_present h hthere
    | cons second parts =>
      have hg := get_of_clearWay hclear h hthere
      rw [getPath_dict_cons, hg] at h
      show es.set part (.dict _) = es
      rw [ih (Bool.and_eq_true_iff.1 hclear).2 h]
      exact Entries.set_get hg

/-- It leaves what is there in any case, but for the dictionaries above it. -/
theorem getPath_setPath_missing (hclear : clearWay wr es) (hr : read <+: wr → read = wr)
    (h : getPath .plain read (.dict es) = some there) (hthere : there ≠ .null) :
    getPath .plain read (.dict (setPath true val wr es).1) = some there := by
  induction wr generalizing read es with
  | nil => exact h
  | cons part parts ih =>
    cases read with
    | nil => cases hr List.nil_prefix
    | cons first rest =>
      by_cases hf : first = part
      · subst hf
        cases parts with
        | nil => rw [setPath_leaf_of_present h hthere, h]
        | cons second parts =>
          have hg := get_of_clearWay hclear h hthere
          rw [getPath_dict_cons, hg] at h
          show getPath .plain (first :: rest) (.dict (es.set first (.dict _))) = _
          rw [getPath_dict_cons, Entries.get_set_self]
          exact ih (Bool.and_eq_true_iff.1 hclear).2
            (fun hprefix => (List.cons.inj (hr (List.cons_prefix_cons.2 ⟨rfl, hprefix⟩))).2) h
      · rwa [getPath_dict_cons, get_setPath_of_ne hf]

/-- What is there above the end of a clear way is a dictionary. -/
theorem dict_of_clearWay (hcleared : clearWay wr es) (hp : read <+: wr) (hne : read ≠ wr)
    (h : getPath .plain read (.dict es) = some there) (hthere : there ≠ .null) :
    ∃ below, there = .dict below := by
  induction wr generalizing read es with
  | nil => exact absurd (List.prefix_nil.1 hp) hne
  | cons part parts ih =>
    cases read with
    | nil => exact ⟨es, (Option.some.inj h).symm⟩
    | cons first rest =>
      obtain ⟨rfl, hrest⟩ := List.cons_prefix_cons.1 hp
      cases parts with
      | nil => exact absurd (by rw [List.prefix_nil.1 hrest]) hne
      | cons second parts =>
        rw [getPath_dict_cons, get_of_clearWay hcleared h hthere] at h
        exact ih (Bool.and_eq_true_iff.1 hcleared).2 hrest (fun he => hne (by rw [he])) h

/-- A write makes room for dictionaries on a way that is not clear. -/
theorem exists_replaced (om : Bool) (val : Value) (hcleared : clearWay wr es = false) :
    ∃ read there, getPath .plain read (.dict es) = some there ∧ there ≠ .null
      ∧ (∀ below, there ≠ .dict below)
      ∧ getPath .plain read (.dict (setPath om val wr es).1) ≠ some there := by
  induction wr generalizing es with
  | nil => cases hcleared
  | cons part parts ih =>
    cases parts with
    | nil => cases hcleared
    | cons second parts =>
      have hset : (setPath om val (part :: second :: parts) es).1
          = es.set part (.dict (setPath om val (second :: parts) (es.inner part)).1) := rfl
      rw [clearWay, Bool.and_eq_false_iff] at hcleared
      rcases hcleared with hblocked | hbelow
      · -- the value that stands here is replaced
        cases hg : es.get part with
        | none => rw [hg] at hblocked; cases hblocked
        | some there =>
          rw [hg] at hblocked
          have hread : getPath .plain [part] (.dict es) = some there := by
            rw [getPath_dict_cons, hg]
            rfl
          refine ⟨[part], there, hread, ?_, ?_, ?_⟩
          · rintro rfl
            cases hblocked
          · rintro below rfl
            cases hblocked
          · rw [hset, getPath_dict_cons, Entries.get_set_self]
            rintro ⟨⟩
            cases hblocked
      · obtain ⟨read, there, hr, hnull, hdict, hn⟩ := ih hbelow
        -- only a dictionary has something below it that can be replaced
        have hg : es.get part = some (.dict (es.inner part)) := by
          unfold Entries.inner at hr ⊢
          cases hg : es.get part with
          | none => rw [hg] at hr; exact absurd (getPath_empty hr) (hdict [])
          | some found =>
            cases found with
            | dict below => rfl
            | _ => rw [hg] at hr; exact absurd (getPath_empty hr) (hdict [])
        refine ⟨part :: read, there, ?_, hnull, hdict, ?_⟩
        · rw [getPath_dict_cons, hg]
          exact hr
        · rw [hset, getPath_dict_cons, Entries.get_set_self]
          exact hn

end Missing

/-! ### Changing one entry -/

/-- Change the value of a key. -/
def Entries.adjust (key : String) (f : Value → Value) (entries : Entries) : Entries :=
  entries.map fun entry => (entry.1, if entry.1 = key then f entry.2 else entry.2)

section Adjust

variable {key : String} {f : Value → Value} {es : Entries}

theorem Entries.get_adjust (key key' : String) (f : Value → Value) (es : Entries) :
    (es.adjust key f).get key' = if key' = key then (es.get key').map f else es.get key' := by
  induction es with
  | nil => simp [Entries.adjust, Entries.get]
  | cons ent es ih =>
    obtain ⟨k, v⟩ := ent
    simp only [Entries.adjust, Entries.get, List.map_cons, List.lookup_cons] at ih ⊢
    by_cases hk : key' = k
    · subst hk
      by_cases hkey : key' = key <;> simp [hkey]
    · rw [beq_false_of_ne hk]
      exact ih

theorem Entries.adjust_set (key key' : String) (f : Value → Value) (val : Value) (es : Entries) :
    (es.set key' val).adjust key f
      = (es.adjust key f).set key' (if key' = key then f val else val) := by
  induction es with
  | nil => rfl
  | cons ent es ih =>
    obtain ⟨k, v⟩ := ent
    by_cases hk : k = key'
    · subst hk
      simp [Entries.set, Entries.adjust]
    · simp only [Entries.set, Entries.adjust, List.map_cons, if_neg hk] at ih ⊢
      rw [ih]

end Adjust

/-! ### Hiding a path -/

/-- Replace what is at a path by null. -/
def hide : List String → Value → Value
  | [], _ => .null
  | part :: parts, .dict entries => .dict (Entries.adjust part (hide parts) entries)
  | _ :: _, value => value

/-- The dictionaries are the same, apart from what is at the path. -/
def Agree (hidden : List String) (entries entries' : Entries) : Prop :=
  hide hidden (.dict entries) = hide hidden (.dict entries')

section Agree

variable {rt : Runtime} {hidden : List String} {ents ents' : Entries}

theorem Agree.symm (h : Agree hidden ents ents') : Agree hidden ents' ents := Eq.symm h

variable {part key : String} {parts read : List String}

theorem agree_cons :
    Agree (part :: parts) ents ents'
      ↔ ents.adjust part (hide parts) = ents'.adjust part (hide parts) := by
  show Value.dict _ = Value.dict _ ↔ _
  rw [Value.dict.injEq]

/-- A path that is neither above nor below the hidden one. -/
def Apart (hidden read : List String) : Prop := ¬hidden <+: read ∧ ¬read <+: hidden

instance (hidden read : List String) : Decidable (Apart hidden read) :=
  inferInstanceAs (Decidable (_ ∧ _))

theorem getPath_hide (h : Apart hidden read) (val : Value) :
    getPath rt read (hide hidden val) = getPath rt read val := by
  induction hidden generalizing read val with
  | nil => exact absurd List.nil_prefix h.1
  | cons part parts ih =>
    cases read with
    | nil => exact absurd List.nil_prefix h.2
    | cons first rest =>
      cases val with
      | dict ents =>
        show ((Entries.adjust part (hide parts) ents).get first).bind (getPath rt rest)
          = (Entries.get ents first).bind (getPath rt rest)
        rw [Entries.get_adjust]
        by_cases hf : first = part
        · subst hf
          rw [if_pos rfl, Option.bind_map]
          have hr : Apart parts rest :=
            ⟨fun hp => h.1 (List.cons_prefix_cons.2 ⟨rfl, hp⟩),
              fun hp => h.2 (List.cons_prefix_cons.2 ⟨rfl, hp⟩)⟩
          exact congrArg _ (funext fun below => ih hr below)
        · rw [if_neg hf]
      | _ => rfl

/-- Reads apart from the hidden path see no difference. -/
theorem Agree.getPath (h : Agree hidden ents ents') (hr : Apart hidden read) :
    getPath rt read (.dict ents) = getPath rt read (.dict ents') := by
  rw [← getPath_hide hr (.dict ents), h, getPath_hide hr]

section

variable (h : Agree (part :: parts) ents ents')
include h

theorem Agree.get_of_ne (hk : key ≠ part) : ents.get key = ents'.get key := by
  have hg := congrArg (Entries.get · key) (agree_cons.1 h)
  simpa only [Entries.get_adjust, if_neg hk] using hg

/-- What is at the first part of the path agrees apart from the rest of it. -/
theorem Agree.get_self :
    (ents.get part).map (hide parts) = (ents'.get part).map (hide parts) := by
  have hg := congrArg (Entries.get · part) (agree_cons.1 h)
  simpa only [Entries.get_adjust, if_pos] using hg

/-- Writes of the same value. -/
theorem Agree.set {val val' : Value}
    (hv : if key = part then hide parts val = hide parts val' else val = val') :
    Agree (part :: parts) (ents.set key val) (ents'.set key val') := by
  rw [agree_cons, Entries.adjust_set, Entries.adjust_set, agree_cons.1 h]
  by_cases hk : key = part
  · rw [if_pos hk] at hv
    rw [if_pos hk, if_pos hk, hv]
  · rw [if_neg hk] at hv
    rw [if_neg hk, if_neg hk, hv]

end

theorem hide_eq_null {val : Value} (h : hide (part :: parts) val = .null) : val = .null := by
  cases val with
  | dict ents => cases h
  | _ => exact h

/-- The dictionaries below the first part of the path agree apart from the rest of it. -/
theorem Agree.inner {first : String} (h : Agree (part :: first :: parts) ents ents') :
    Agree (first :: parts) (ents.inner part) (ents'.inner part) := by
  have hs := h.get_self
  unfold Entries.inner
  cases hg : ents.get part with
  | none =>
    rw [hg] at hs
    rw [Option.map_eq_none_iff.1 hs.symm]
    rfl
  | some val =>
    rw [hg] at hs
    obtain ⟨val', hg', hv⟩ := Option.map_eq_some_iff.1 hs.symm
    rw [hg']
    cases val with
    | dict below =>
      cases val' with
      | dict below' => exact hv.symm
      | _ => cases hv
    | _ =>
      cases val' with
      | dict below' => cases hv
      | _ => rfl

/-- Only what is hidden can be missing on one side; then the write is hidden as well. -/
theorem Agree.set_missing {val there : Value} (h : Agree (part :: parts) ents ents')
    (hg : ents.get part = some .null) (hg' : ents'.get part = some there)
    (hthere : there ≠ .null) : Agree (part :: parts) (ents.set part val) ents' := by
  have hs := h.get_self
  rw [hg, hg', Option.map_some, Option.map_some, Option.some.injEq] at hs
  cases parts with
  | nil =>
    rw [agree_cons, Entries.adjust_set, if_pos rfl, ← agree_cons.1 h]
    refine Entries.set_get ?_
    rw [Entries.get_adjust, if_pos rfl, hg]
    rfl
  | cons first parts => exact absurd (hide_eq_null hs.symm) hthere

theorem Agree.setLeaf (om : Bool) (val : Value) (leaf : String)
    (h : Agree (part :: parts) ents ents') :
    Agree (part :: parts) (Document.setPath om val [leaf] ents).1
      (Document.setPath om val [leaf] ents').1 := by
  have hboth : Agree (part :: parts) (ents.set leaf val) (ents'.set leaf val) :=
    h.set (by split <;> rfl)
  -- one side alone writes only to the hidden path
  have hone {e e' : Entries} (h : Agree (part :: parts) e e')
      (hvacant : e.get leaf = none ∨ e.get leaf = some .null)
      (hthere : ∃ there, e'.get leaf = some there ∧ there ≠ .null) :
      Agree (part :: parts) (e.set leaf val) e' := by
    obtain ⟨there, hg', hthere⟩ := hthere
    by_cases hleaf : leaf = part
    · subst hleaf
      rcases hvacant with hg | hg
      · have hs := h.get_self
        rw [hg, hg'] at hs
        cases hs
      · exact h.set_missing hg hg' hthere
    · rw [h.get_of_ne hleaf, hg'] at hvacant
      rcases hvacant with hg | hg
      · cases hg
      · exact absurd (Option.some.inj hg) hthere
  rcases setPath_leaf om val leaf ents with ⟨he, hvacant⟩ | ⟨he, ho, hthere⟩ <;>
    rcases setPath_leaf om val leaf ents' with
      ⟨he', hvacant'⟩ | ⟨he', ho', hthere'⟩ <;>
    rw [he, he']
  · exact hboth
  · exact hone h (hvacant ho') hthere'
  · exact (hone h.symm (hvacant' ho) hthere).symm
  · exact h

/-- Every write leaves the dictionaries in agreement: below the hidden path nobody sees it, and
elsewhere the same is written. -/
theorem Agree.setPath (om : Bool) (val : Value) (path : List String) (h : Agree hidden ents ents') :
    Agree hidden (setPath om val path ents).1 (setPath om val path ents').1 := by
  induction path generalizing hidden ents ents' with
  | nil => exact h
  | cons first rest ih =>
    cases hidden with
    | nil => rfl
    | cons part parts =>
      cases rest with
      | nil => exact h.setLeaf om val first
      | cons second rest =>
        show Agree _ (ents.set first (.dict _)) (ents'.set first (.dict _))
        refine h.set ?_
        by_cases hf : first = part
        · subst hf
          rw [if_pos rfl]
          cases parts with
          | nil => rfl
          | cons third parts => exact ih h.inner
        · rw [if_neg hf, Entries.inner, Entries.inner, h.get_of_ne hf]

/-- A write that replaces what is there happens whatever is there. -/
theorem setPath_changed (val : Value) (path : List String) (ents ents' : Entries) :
    (Document.setPath false val path ents).2 = (Document.setPath false val path ents').2 := by
  induction path generalizing ents ents' with
  | nil => rfl
  | cons first rest ih =>
    cases rest with
    | nil => rfl
    | cons second rest => exact ih _ _

end Agree

end Document

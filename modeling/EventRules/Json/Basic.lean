import EventRules.Json.Fields
import EventRules.Number.Shortest

/-!
# Json — values without a schema

A number is an integer between `-2 ^ 63` and `2 ^ 64 - 1` or a finite double.  An object lists its
entries; in a *canonical* value their names are strictly increasing, and `Json.canonical` brings any
value into that form, the last of several entries of one name winning.  `Json.Ordered` is a value that
carries the proof that it is canonical.  Entries in the order in which a sender wrote them are kept
only where that order carries meaning.
-/

namespace EventRules

/-- The integers that a number holds exactly. -/
def Number.InRange (n : Int) : Prop := -9223372036854775808 ≤ n ∧ n < 18446744073709551616

instance (n : Int) : Decidable (Number.InRange n) := inferInstanceAs (Decidable (_ ∧ _))

inductive Number where
  | integer (value : Int) (inRange : Number.InRange value)
  | float (value : Finite64)
  deriving DecidableEq

namespace Number

/-- An integer as a number, if it is held exactly. -/
def ofInt? (n : Int) : Option Number :=
  if h : InRange n then some (.integer n h) else none

def toBinary64 : Number → Binary64
  | .integer n _ => Binary64.ofInt n
  | .float x => .finite x

/-- Floats are positional for decimal exponents from minus five to fifteen. -/
def layout : DecimalLayout := ⟨fun exponent => -5 ≤ exponent && exponent ≤ 15, true⟩

def toText : Number → String
  | .integer n _ => toString n
  | .float x => layout.write x

end Number

inductive Json where
  | null
  | bool (b : Bool)
  | number (n : Number)
  | string (s : String)
  | array (items : List Json)
  | object (entries : List (String × Json))
  deriving Inhabited

namespace Json

/-! ## Equality -/

mutual

def decEq : (a b : Json) → Decidable (a = b)
  | .null, b =>
      match b with
      | .null => isTrue rfl
      | .bool _ | .number _ | .string _ | .array _ | .object _ => isFalse nofun
  | .bool x, b =>
      match b with
      | .bool y => decidable_of_iff (x = y) (by simp)
      | .null | .number _ | .string _ | .array _ | .object _ => isFalse nofun
  | .number x, b =>
      match b with
      | .number y => decidable_of_iff (x = y) (by simp)
      | .null | .bool _ | .string _ | .array _ | .object _ => isFalse nofun
  | .string x, b =>
      match b with
      | .string y => decidable_of_iff (x = y) (by simp)
      | .null | .bool _ | .number _ | .array _ | .object _ => isFalse nofun
  | .array x, b =>
      match b with
      | .array y =>
          have := decEqItems x y
          decidable_of_iff (x = y) (by simp)
      | .null | .bool _ | .number _ | .string _ | .object _ => isFalse nofun
  | .object x, b =>
      match b with
      | .object y =>
          have := decEqEntries x y
          decidable_of_iff (x = y) (by simp)
      | .null | .bool _ | .number _ | .string _ | .array _ => isFalse nofun

def decEqItems : (a b : List Json) → Decidable (a = b)
  | [], [] => isTrue rfl
  | [], _ :: _ => isFalse nofun
  | _ :: _, [] => isFalse nofun
  | x :: xs, y :: ys =>
      have := decEq x y
      have := decEqItems xs ys
      decidable_of_iff (x = y ∧ xs = ys) (by simp)

def decEqEntries : (a b : List (String × Json)) → Decidable (a = b)
  | [], [] => isTrue rfl
  | [], _ :: _ => isFalse nofun
  | _ :: _, [] => isFalse nofun
  | (m, x) :: xs, (n, y) :: ys =>
      have := decEq x y
      have := decEqEntries xs ys
      decidable_of_iff (m = n ∧ x = y ∧ xs = ys) (by simp [and_assoc])

end

instance : DecidableEq Json := decEq

/-! ## Canonical form -/

mutual

/-- Names strictly increasing in every object. -/
def Canonical : Json → Prop
  | .array items => CanonicalItems items
  | .object entries => Fields.Sorted entries ∧ CanonicalEntries entries
  | _ => True

def CanonicalItems : List Json → Prop
  | [] => True
  | item :: rest => item.Canonical ∧ CanonicalItems rest

def CanonicalEntries : List (String × Json) → Prop
  | [] => True
  | (_, value) :: rest => value.Canonical ∧ CanonicalEntries rest

end

mutual

def canonical : Json → Json
  | .array items => .array (canonicalItems items)
  | .object entries => .object (Fields.ofList (canonicalEntries entries))
  | other => other

def canonicalItems : List Json → List Json
  | [] => []
  | item :: rest => item.canonical :: canonicalItems rest

def canonicalEntries : List (String × Json) → List (String × Json)
  | [] => []
  | (name, value) :: rest => (name, value.canonical) :: canonicalEntries rest

end

/-! ## Access -/

/-- The value of an object under a name. -/
def get? (name : String) : Json → Option Json
  | .object entries => Fields.get? name entries
  | _ => none

def string? : Json → Option String
  | .string s => some s
  | _ => none

def ofInt (n : Int) : Json :=
  match Number.ofInt? n with
  | some held => .number held
  | none => .null

def ofNat (n : Nat) : Json := ofInt n

/-- A double as a value; what is not finite has no number. -/
def ofBinary64 : Binary64 → Json
  | .finite x => .number (.float x)
  | _ => .null

/-- An object in canonical form from a list of entries. -/
def ofEntries (entries : List (String × Json)) : Json := .object (Fields.ofList entries)

/-! ## Values that carry their order -/

theorem CanonicalEntries.value {entries : List (String × Json)} (h : CanonicalEntries entries)
    {entry : String × Json} (hentry : entry ∈ entries) : entry.2.Canonical := by
  induction entries with
  | nil =>
      cases hentry
  | cons first rest ih =>
      obtain ⟨hfirst, hrest⟩ := h
      rcases List.mem_cons.1 hentry with rfl | hlater
      · exact hfirst
      · exact ih hrest hlater

theorem canonicalEntries_iff {entries : List (String × Json)} :
    CanonicalEntries entries ↔ ∀ entry ∈ entries, entry.2.Canonical := by
  constructor
  · intro h entry hentry
    exact h.value hentry
  · intro h
    induction entries with
    | nil =>
        trivial
    | cons first rest ih =>
        exact ⟨h first List.mem_cons_self, ih fun entry hentry =>
          h entry (List.mem_cons_of_mem _ hentry)⟩

/-- Fields of canonical values are fields of canonical values whatever their order was. -/
theorem canonical_ofEntries {entries : List (String × Json)} (h : CanonicalEntries entries) :
    (ofEntries entries).Canonical := by
  refine ⟨Fields.sorted_ofList entries, canonicalEntries_iff.2 fun entry hentry => ?_⟩
  exact h.value (Fields.mem_of_mem_ofList hentry)

mutual

theorem canonical_canonical : ∀ value : Json, value.canonical.Canonical
  | .array items => canonical_canonicalItems items
  | .object entries => canonical_ofEntries (canonical_canonicalEntries entries)
  | .null => trivial
  | .bool _ => trivial
  | .number _ => trivial
  | .string _ => trivial

theorem canonical_canonicalItems : ∀ items : List Json, CanonicalItems (canonicalItems items)
  | [] => trivial
  | item :: rest => ⟨canonical_canonical item, canonical_canonicalItems rest⟩

theorem canonical_canonicalEntries : ∀ entries : List (String × Json),
    CanonicalEntries (canonicalEntries entries)
  | [] => trivial
  | (_, value) :: rest => ⟨canonical_canonical value, canonical_canonicalEntries rest⟩

end

/-- A value in canonical form, as it is read from a text. -/
@[ext]
structure Ordered where
  value : Json
  canonical : value.Canonical
  deriving DecidableEq

/-- Any value, put in canonical form. -/
def Ordered.ofJson (value : Json) : Ordered := ⟨value.canonical, canonical_canonical value⟩

end Json

end EventRules

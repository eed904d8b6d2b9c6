import EventRules.Proofs.Json.Depth

/-!
# Standing — what stands in a text

Where a value stands in a text, its parts stand at known places.  Readers of typed data find the parts
there, one bracket deeper where the value is an object.

* `reads_value_token` — the first character of a value, and what it says about the value;
* `reads_value_object` — an object, and what any reader of its members makes of it;
* `Steps`, `reads_foldMembers` — member after member.
-/

namespace EventRules
namespace Json
namespace TextReader

variable {α σ : Type} {before middle after : Cursor} {document : Json}

/-! ## White space -/

theorem pastSpace_idem (place : Position) (cs : List Char) :
    pastSpace (pastSpace place cs).2 (pastSpace place cs).1 = pastSpace place cs := by
  induction cs generalizing place with
  | nil =>
      rfl
  | cons c rest ih =>
      rw [pastSpace]
      split
      · exact ih _
      · rename_i h
        simp only [pastSpace, h]
        rfl

theorem peekToken?_apply (cursor : Cursor) :
    peekToken? cursor =
      (.ok (pastSpace cursor.place cursor.rest).1.head?,
        { cursor with
          rest := (pastSpace cursor.place cursor.rest).1
          place := (pastSpace cursor.place cursor.rest).2 }) :=
  rfl

/-- White space is passed over once. -/
theorem reads_peekToken?_again {next : Option Char} (h : Reads peekToken? before next middle) :
    Reads peekToken? middle next middle := by
  cases (peekToken?_apply before).symm.trans h
  simp only [Reads, peekToken?_apply, pastSpace_idem]

/-! ## Values -/

theorem not_reads_malformedNext {m : Malformed} {answer : α} :
    ¬ Reads (malformedNext m) before answer after := by
  intro h
  cases h

/-- A value that begins with a character, one deeper than its parts may be nested. -/
def valueFrom (depth : Nat) : Char → TextReader Json
  | '[' => do
      if depth = 0 then malformedNext .tooDeep
      else
        advance
        return .array (← andThen (elements (wireWithin depth) true) closeList)
  | '\x7b' => do
      if depth = 0 then malformedNext .tooDeep
      else
        advance
        return .object (← andThen (inOrder (wireWithin depth)) closeObject)
  | c => scalar c

theorem reads_value_iff :
    Reads value before document after ↔ Reads (wireWithin before.depth) before document after := by
  rw [value_eq_wireValue]
  rfl

/-- A value is read from its first character on. -/
theorem wireWithin_succ (depth : Nat) : wireWithin (depth + 1) = (do
    match (← peekToken?) with
    | none => malformedNext .endInValue
    | some c => valueFrom depth c) := by
  refine bind_congr fun next => ?_
  cases next with
  | none =>
      rfl
  | some c =>
      unfold valueFrom
      split <;> simp_all

theorem reads_value_iff_from :
    Reads value before document after ↔ ∃ depth c middle, before.depth = depth + 1 ∧
      Reads peekToken? before (some c) middle ∧ Reads (valueFrom depth c) middle document after := by
  rw [reads_value_iff]
  cases before.depth with
  | zero =>
      simp [wireWithin, not_reads_malformedNext]
  | succ depth =>
      rw [wireWithin_succ, reads_bind]
      constructor
      · rintro ⟨next, middle, hpeek, hrest⟩
        cases next with
        | none =>
            exact absurd hrest not_reads_malformedNext
        | some c =>
            exact ⟨depth, c, middle, rfl, hpeek, hrest⟩
      · rintro ⟨own, c, middle, hdepth, hpeek, hrest⟩
        cases hdepth
        exact ⟨some c, middle, hpeek, hrest⟩

/-- What the first character says about a value. -/
def Announces (c : Char) : Json → Prop
  | .null => c = 'n'
  | .bool _ => c = 't' ∨ c = 'f'
  | .number _ => c = '-' ∨ c.isDigit = true
  | .string _ => c = '"'
  | .array _ => c = '['
  | .object _ => c = '\x7b'

theorem announces_null_iff : Announces 'n' document ↔ document = .null := by
  cases document <;> simp [Announces]

theorem announces_of_scalar {c : Char} (h : Reads (scalar c) before document after) :
    Announces c document := by
  have worded {cs : List Char} {value : Json} (h : Reads (do
      advance
      word cs
      return value : TextReader Json) before document after) : document = value := by
    obtain ⟨_, _, -, hrest⟩ := reads_bind.1 h
    obtain ⟨_, _, -, hpure⟩ := reads_bind.1 hrest
    exact (reads_pure.1 hpure).1.symm
  unfold scalar at h
  split at h
  · rename_i hc
    exact worded h ▸ hc
  split at h
  · rename_i hc
    exact worded h ▸ .inl hc
  split at h
  · rename_i hc
    exact worded h ▸ .inr hc
  split at h
  · rename_i hc
    obtain ⟨_, _, -, hrest⟩ := reads_bind.1 h
    obtain ⟨s, _, -, hpure⟩ := reads_bind.1 hrest
    exact (reads_pure.1 hpure).1 ▸ hc
  split at h
  · rename_i hc
    obtain ⟨n, _, -, hpure⟩ := reads_bind.1 h
    exact (reads_pure.1 hpure).1 ▸ (by simpa [Announces] using hc)
  · exact absurd h not_reads_malformedNext

theorem announces_of_valueFrom {depth : Nat} {c : Char}
    (h : Reads (valueFrom depth c) before document after) : Announces c document := by
  unfold valueFrom at h
  split at h
  · split at h
    · exact absurd h not_reads_malformedNext
    · obtain ⟨_, _, -, hrest⟩ := reads_bind.1 h
      obtain ⟨items, _, -, hpure⟩ := reads_bind.1 hrest
      exact (reads_pure.1 hpure).1 ▸ rfl
  · split at h
    · exact absurd h not_reads_malformedNext
    · obtain ⟨_, _, -, hrest⟩ := reads_bind.1 h
      obtain ⟨members, _, -, hpure⟩ := reads_bind.1 hrest
      exact (reads_pure.1 hpure).1 ▸ rfl
  · exact announces_of_scalar h

/-- The first character of a value announces it, and the value stands at that character too. -/
theorem reads_value_token (h : Reads value before document after) :
    ∃ c middle, Reads peekToken? before (some c) middle ∧ Announces c document ∧
      Reads value middle document after := by
  obtain ⟨depth, c, middle, hdepth, hpeek, hfrom⟩ := reads_value_iff_from.1 h
  have hmiddle : middle.depth = depth + 1 :=
    (ignoresDepth_peekToken?.depth_eq hpeek).trans hdepth
  exact ⟨c, middle, hpeek, announces_of_valueFrom hfrom,
    reads_value_iff_from.2 ⟨depth, c, middle, hmiddle, reads_peekToken?_again hpeek, hfrom⟩⟩

/-- A string stands behind its opening quote. -/
theorem reads_value_string {s : String} (h : Reads value before (.string s) after) :
    ∃ middle, Reads peekToken? before (some '"') middle ∧
      Reads (do
        advance
        stringBody) middle s after := by
  obtain ⟨depth, c, middle, -, hpeek, hfrom⟩ := reads_value_iff_from.1 h
  obtain rfl : c = '"' := announces_of_valueFrom hfrom
  have hquote : Reads (do
      advance
      return Json.string (← stringBody) : TextReader Json) middle (.string s) after := hfrom
  obtain ⟨_, inner, hadvance, hrest⟩ := reads_bind.1 hquote
  obtain ⟨own, last, hbody, hpure⟩ := reads_bind.1 hrest
  obtain ⟨hsame, rfl⟩ := reads_pure.1 hpure
  cases hsame
  exact ⟨middle, hpeek, reads_bind.2 ⟨_, inner, hadvance, hbody⟩⟩

/-! ## Objects -/

theorem reads_ite {p : Prop} [Decidable p] {yes no : TextReader α} {answer : α} :
    Reads (if p then yes else no) before answer after ↔
      p ∧ Reads yes before answer after ∨ ¬p ∧ Reads no before answer after := by
  split <;> simp [*]

/-- The members that are left are none, or one and those behind it. -/
theorem reads_membersInOrder_succ {element : TextReader α} {steps : Nat} {first : Bool}
    {members : List (String × α)} :
    Reads (membersInOrder element (steps + 1) first) before members after ↔
      Reads (hasName first) before false after ∧ members = [] ∨
      ∃ name x later named body behind, members = (name, x) :: later ∧
        Reads (hasName first) before true named ∧ Reads stringBody named name body ∧
        Reads (do
          colon
          element) body x behind ∧
        Reads (membersInOrder element steps false) behind later after := by
  rw [membersInOrder, reads_bind]
  constructor
  · rintro ⟨follows, named, hname, hrest⟩
    cases follows with
    | false =>
        obtain ⟨rfl, rfl⟩ := reads_pure.1 hrest
        exact .inl ⟨hname, rfl⟩
    | true =>
        simp only [if_true, reads_bind, reads_pure] at hrest
        obtain ⟨name, body, hbody, _, colon, hcolon, x, behind, hx, later, _, hlater, rfl, rfl⟩ := hrest
        exact .inr ⟨name, x, later, named, body, behind, rfl, hname, hbody,
          reads_bind.2 ⟨_, colon, hcolon, hx⟩, hlater⟩
  · rintro (⟨hname, rfl⟩ | ⟨name, x, later, named, body, behind, rfl, hname, hbody, hx, hlater⟩)
    · exact ⟨false, after, hname, reads_pure.2 ⟨rfl, rfl⟩⟩
    · obtain ⟨_, colon, hcolon, hx⟩ := reads_bind.1 hx
      refine ⟨true, named, hname, ?_⟩
      simp only [if_true, reads_bind, reads_pure]
      exact ⟨name, body, hbody, _, colon, hcolon, x, behind, hx, later, _, hlater, rfl, rfl⟩

/-- A value that was read at a depth of its own stands where that is the depth. -/
theorem reads_value_of_wireWithin {depth : Nat} (h : Reads (wireWithin depth) before document after) :
    Reads value (before.atDepth depth) document (after.atDepth depth) :=
  reads_value_iff.2 (ignoresDepth_wireWithin depth h depth)

/-- So do the members of an object. -/
theorem reads_inOrder_of_wireWithin {depth : Nat} {members : List (String × Json)}
    (h : Reads (inOrder (wireWithin depth)) before members after) :
    Reads (inOrder value) (before.atDepth depth) members (after.atDepth depth) := by
  -- names, colons and ends are read at any depth, and values at the one that is theirs
  have hloop (steps : Nat) (first : Bool) {before after : Cursor} {members : List (String × Json)}
      (h : Reads (membersInOrder (wireWithin depth) steps first) before members after) :
      Reads (membersInOrder value steps first) (before.atDepth depth) members
        (after.atDepth depth) := by
    induction steps generalizing first before members with
    | zero =>
        obtain ⟨rfl, rfl⟩ := reads_pure.1 h
        exact reads_pure.2 ⟨rfl, rfl⟩
    | succ steps ih =>
        rw [reads_membersInOrder_succ] at h ⊢
        obtain ⟨hname, rfl⟩ | ⟨name, x, later, named, body, behind, rfl, hname, hbody, hx, hlater⟩ := h
        · exact .inl ⟨ignoresDepth_hasName first hname depth, rfl⟩
        · obtain ⟨_, colon, hcolon, hx⟩ := reads_bind.1 hx
          exact .inr ⟨name, x, later, named.atDepth depth, body.atDepth depth,
            behind.atDepth depth, rfl, ignoresDepth_hasName first hname depth,
            ignoresDepth_stringBody hbody depth,
            reads_bind.2 ⟨_, _, ignoresDepth_colon hcolon depth, reads_value_of_wireWithin hx⟩,
            ih false hlater⟩
  obtain ⟨left, middle, ⟨⟩, hmembers⟩ := reads_bind.1 h
  exact reads_bind.2 ⟨_, _, rfl, hloop _ true hmembers⟩

/-- What stands behind a bracket is read one bracket deeper. -/
theorem reads_nested {body : TextReader α} {answer : α} {inner last : Cursor} {depth : Nat}
    (hdepth : before.depth = depth + 1) (hdeep : depth ≠ 0) (hlast : last.depth = before.depth)
    (hadvance : Reads advance before () inner)
    (hbody : Reads body (inner.atDepth depth) answer (last.atDepth depth)) :
    Reads (nested body) before answer last := by
  have hnot : ¬before.depth ≤ 1 := by omega
  have hset : ({ before with depth := before.depth - 1 } : Cursor) = before.atDepth depth := by
    rw [hdepth]
    rfl
  have hback : (last.atDepth depth).atDepth before.depth = last := by
    rw [← hlast]
    rfl
  refine reads_bind.2 ⟨before, before, rfl, ?_⟩
  rw [if_neg hnot, hset]
  refine reads_bind.2 ⟨(), before.atDepth depth, rfl, ?_⟩
  refine reads_bind.2 ⟨(), inner.atDepth depth, ignoresDepth_advance hadvance depth, ?_⟩
  refine reads_andThen.2 ⟨last.atDepth depth, hbody, ?_⟩
  rw [← hback]
  rfl

/-- An object stands behind its opening bracket. -/
theorem reads_value_object {members : List (String × Json)}
    (h : Reads value before (.object members) after) :
    ∃ inner last, Reads (inOrder value) inner members last ∧
      ∀ {α : Type} {body : TextReader α} {answer : α} (expected : String),
        Reads body inner answer last →
        Reads (bracketed '\x7b' body closeObject expected) before answer after := by
  obtain ⟨depth, c, middle, hdepth, hpeek, hfrom⟩ := reads_value_iff_from.1 h
  obtain rfl : c = '\x7b' := announces_of_valueFrom hfrom
  have hmiddle : middle.depth = depth + 1 :=
    (ignoresDepth_peekToken?.depth_eq hpeek).trans hdepth
  -- the bracket was opened, so there is a depth left for the members
  obtain ⟨hdeep, hbrace⟩ : ¬depth = 0 ∧ Reads (do
      advance
      return Json.object (← andThen (inOrder (wireWithin depth)) closeObject) : TextReader Json)
      middle (.object members) after := by
    obtain ⟨-, h⟩ | h := reads_ite.1 (show Reads (ite (depth = 0) _ _) middle _ after from hfrom)
    · exact absurd h not_reads_malformedNext
    · exact h
  obtain ⟨_, inner, hadvance, hrest⟩ := reads_bind.1 hbrace
  obtain ⟨own, _, hown, hpure⟩ := reads_bind.1 hrest
  obtain ⟨hsame, rfl⟩ := reads_pure.1 hpure
  cases hsame
  obtain ⟨last, hmembers, hclose⟩ := reads_andThen.1 hown
  have hlast : last.depth = middle.depth :=
    ((ignoresDepth_inOrder (ignoresDepth_wireWithin depth)).depth_eq hmembers).trans
      (ignoresDepth_advance.depth_eq hadvance)
  refine ⟨inner.atDepth depth, last.atDepth depth, reads_inOrder_of_wireWithin hmembers, ?_⟩
  intro α body answer expected hbody
  refine reads_bind.2 ⟨_, middle, hpeek, ?_⟩
  simp only [if_pos]
  exact reads_located.2 (reads_andThen.2 ⟨last,
    reads_nested hmiddle hdeep hlast hadvance hbody, hclose⟩)

/-! ## Member after member -/

/-- What a step makes of members: wherever the value of a member stands, the step reads the member. -/
inductive Steps (step : String → σ → TextReader σ) : List (String × Json) → σ → σ → Prop
  | nil {acc : σ} : Steps step [] acc acc
  | cons {name : String} {document : Json} {members : List (String × Json)} {acc next final : σ} :
      (∀ {before after : Cursor}, Reads (do
          colon
          value) before document after → Reads (step name acc) before next after) →
      Steps step members next final → Steps step ((name, document) :: members) acc final

theorem reads_memberLoop {step : String → σ → TextReader σ} {members : List (String × Json)}
    {acc final : σ} (steps : Steps step members acc final) {count : Nat} {first : Bool}
    (h : Reads (membersInOrder value count first) before members after) :
    Reads (memberLoop step count first acc) before final after := by
  -- the text decides how many members there are, and both loops see the same text
  induction steps generalizing count first before with
  | nil =>
      cases count with
      | zero =>
          obtain ⟨-, rfl⟩ := reads_pure.1 h
          exact reads_pure.2 ⟨rfl, rfl⟩
      | succ count =>
          obtain ⟨hname, -⟩ | ⟨_, _, _, _, _, _, hmembers, -⟩ := reads_membersInOrder_succ.1 h
          · exact reads_bind.2 ⟨false, after, hname, reads_pure.2 ⟨rfl, rfl⟩⟩
          · cases hmembers
  | cons here behind ih =>
      cases count with
      | zero =>
          cases (reads_pure.1 h).1
      | succ count =>
          obtain ⟨-, hmembers⟩ | ⟨_, _, _, named, body, next, hmembers, hname, hbody, hx, hlater⟩ :=
            reads_membersInOrder_succ.1 h
          · cases hmembers
          · cases hmembers
            refine reads_bind.2 ⟨true, named, hname, ?_⟩
            exact reads_bind.2 ⟨_, body, hbody, reads_bind.2 ⟨_, next, here hx, ih hlater⟩⟩

theorem reads_foldMembers {step : String → σ → TextReader σ} {members : List (String × Json)}
    {start final : σ} (steps : Steps step members start final)
    (h : Reads (inOrder value) before members after) :
    Reads (foldMembers step start) before final after := by
  obtain ⟨left, middle, ⟨⟩, hmembers⟩ := reads_bind.1 h
  exact reads_bind.2 ⟨_, _, rfl, reads_memberLoop steps hmembers⟩

end TextReader
end Json
end EventRules

import FeatureFlags.Condition.Operator
import FeatureFlags.Pattern.Parser

/-!
Searching text for a pattern, in one pass: the expression is laid out as a machine
and all places the machine can be at are followed together.
-/

namespace FeatureFlags.Pattern

inductive Instruction where
  | fork (a b : Nat)
  | require (a : Anchor) (next : Nat)
  | take (s : CharClass) (next : Nat)
  | accept

abbrev Machine := Array Instruction

namespace Machine

def place (m : Machine) (i : Instruction) : Nat × Machine :=
  (m.size, m.push i)

def copies (layOne : Nat → Machine → Nat × Machine) : Nat → Nat → Machine → Nat × Machine
  | 0, next, m => (next, m)
  | n + 1, next, m =>
    let (entry, m) := layOne next m
    copies layOne n entry m

/-- Lays out up to `n` copies, each of which can be passed over to `exit`. -/
def optionalCopies (layOne : Nat → Machine → Nat × Machine) (exit : Nat) :
    Nat → Nat → Machine → Nat × Machine
  | 0, next, m => (next, m)
  | n + 1, next, m =>
    let (entry, m) := layOne next m
    let (here, m) := m.place (.fork entry exit)
    optionalCopies layOne exit n here m

/-- Lays out an expression so that it goes on at `next`; the answer is its entry. -/
def layOut : Expression → Nat → Machine → Nat × Machine
  | .empty, next, m => (next, m)
  | .one s, next, m => m.place (.take s next)
  | .anchor a, next, m => m.place (.require a next)
  | .sequence e f, next, m =>
    let (entry, m) := layOut f next m
    layOut e entry m
  | .either e f, next, m =>
    let (right, m) := layOut f next m
    let (left, m) := layOut e next m
    m.place (.fork left right)
  | .repeated e least none, next, m =>
    -- The loop's own place is taken first and filled in when its body is known.
    let (loop, m) := m.place (.fork next next)
    let (body, m) := layOut e loop m
    let m := m.set! loop (.fork body next)
    copies (layOut e) least loop m
  | .repeated e least (some most), next, m =>
    let (entry, m) := optionalCopies (layOut e) next (most - least) next m
    copies (layOut e) least entry m

def ofExpression (e : Expression) : Nat × Machine :=
  layOut e 0 #[.accept]

/-- The places that take a character, and whether the pattern has matched. -/
structure Front where
  seen : Array Bool
  places : List (CharClass × Nat)
  accepted : Bool

/-- Follows forks and anchors from the places on the stack, each place once. -/
def follow (m : Machine) (before after : Option Char) : Nat → List Nat → Front → Front
  | 0, _, f => f
  | _ + 1, [], f => f
  | steps + 1, p :: stack, f =>
    if f.seen.getD p true then follow m before after steps stack f
    else
      let f := { f with seen := f.seen.set! p true }
      match m[p]? with
      | some (.fork a b) => follow m before after steps (a :: b :: stack) f
      | some (.require a next) =>
        if a.holds before after then follow m before after steps (next :: stack) f
        else follow m before after steps stack f
      | some (.take s next) =>
        follow m before after steps stack { f with places := (s, next) :: f.places }
      | some .accept => follow m before after steps stack { f with accepted := true }
      | none => follow m before after steps stack f

/-- The front reached from some places between two characters. Each place is
followed once and puts at most two more on the stack. -/
def front (m : Machine) (before after : Option Char) (places : List Nat) : Front :=
  follow m before after (2 * m.size + places.length + 1) places
    ⟨Array.replicate m.size false, [], false⟩

def search (m : Machine) (entry : Nat) (before : Option Char) (places : List Nat) :
    List Char → Bool
  | [] => (m.front before none (places ++ [entry])).accepted
  | c :: rest =>
    let f := m.front before (some c) (places ++ [entry])
    f.accepted ||
      search m entry (some c)
        ((f.places.filter fun place => place.1.contains c).map (·.2)) rest

def ofSource (source : String) : Except SyntaxError (Nat × Machine) :=
  (Expression.parse source.toList).map ofExpression

end Machine

/-- The engine that the program is run with. It has no classes of Unicode properties. -/
instance engine : PatternEngine where
  compile source :=
    match Machine.ofSource source with
    | .ok _ => .ok ⟨source⟩
    | .error e => .error ⟨e.message⟩
  occursIn p text :=
    match Machine.ofSource p.source with
    | .ok (entry, machine) => machine.search entry none [] text.toList
    | .error _ => false
  source_of_compile := by
    intro source p h
    split at h
    · exact (Pattern.mk.inj (Except.ok.inj h)).symm
    · cases h

end FeatureFlags.Pattern

import Closeness.Policy.Candidates
import Closeness.Policy.Construction
import Closeness.Policy.Description

/-!
# Sessions

A session holds policies in named slots.  A command either builds a policy
for a slot or puts a question to the policy of a slot.  Questions never change
a session, and attempts to change a policy always fail.

Slots are names of the script that gives the commands.  Building a policy
changes no other policy; that it empties its slot first, even if no policy
comes out of it, is a rule of the script.
-/

namespace Closeness

/-- The version of the library, which its users can ask for. -/
def version : String :=
  "0.1.0"

/-- The ways to build a policy, with their parameters. -/
inductive Recipe where
  | absolute (target margin : Value)
  | relative (target epsilon : Value)
  | ulps (target count : Value) (width : WidthChoice)
  | nearRelative (target epsilon : Value) (width : WidthChoice)
  | nearUlps (target count : Value) (width : WidthChoice)

/-- What the policy of a slot can be asked. -/
inductive Question where
  | accepts (candidate : Value)
  | acceptsEach (candidates : List Value)
  | acceptsNest (values : Value)
  | tally (values : Value)
  | describe
  | literal
  | fields
  | effectiveMargin (candidate : Value)
  | bounds
  | equals (other : String)
  | assign (field : String)
  | delete (field : String)

/-- One step of a session. -/
inductive Command where
  /-- Build a policy for a slot. -/
  | build (slot : String) (recipe : Recipe)
  /-- Put a question to the policy of a slot. -/
  | ask (slot : String) (question : Question)

/-- The answer to a command. -/
inductive Reply where
  /-- A slot in question is empty. -/
  | noPolicy
  | policy (policy : Policy)
  | verdict (accepted : Bool)
  | verdicts (accepted : List Bool)
  | mask (mask : Mask)
  | tally (tally : Tally)
  | text (content : String)
  | number (number : Double)
  | interval (lower upper : Double)
  | equality (equal : Bool)

/-- Slots that hold a policy, each once. -/
structure Session where
  /-- The policies by slot. -/
  slots : List (String × Policy)

namespace Recipe

/-- The policy of a recipe. -/
def build : Recipe → Logged Policy
  | absolute target margin => Policy.absolute target margin
  | relative target epsilon => Policy.relative target epsilon
  | ulps target count width => Policy.ulps target count width
  | nearRelative target epsilon width => Policy.nearRelative target epsilon width
  | nearUlps target count width => Policy.nearUlps target count width

end Recipe

namespace Session

/-- The session without policies. -/
def empty : Session :=
  ⟨[]⟩

/-- The policy of a slot. -/
def get? (session : Session) (slot : String) : Option Policy :=
  session.slots.lookup slot

/-- The session with a slot emptied. -/
def erase (session : Session) (slot : String) : Session :=
  ⟨session.slots.filter fun entry => entry.1 != slot⟩

/-- The session with a policy in a slot. -/
def insert (session : Session) (slot : String) (policy : Policy) : Session :=
  ⟨(slot, policy) :: (session.erase slot).slots⟩

/--
The answer to a question put to the policy of a slot.  A slot is equal to
itself, even if the target of its policy is NaN.
-/
def answer (session : Session) (slot : String) (policy : Policy) : Question → Logged Reply
  | .accepts candidate => .verdict <$> policy.acceptsValue candidate
  | .acceptsEach candidates => .verdicts <$> policy.acceptsEach candidates
  | .acceptsNest values => .mask <$> policy.acceptsNest values
  | .tally values => .tally <$> policy.tally values
  | .describe => return .text policy.describe
  | .literal => return .text policy.literal
  | .fields => return .policy policy
  | .effectiveMargin candidate => .number <$> policy.effectiveMargin candidate
  | .bounds =>
    match policy.bounds? with
    | some (lower, upper) => return .interval lower upper
    | none => .ofExcept (.error (.unanswerable policy.form "bounds"))
  | .equals other =>
    match session.get? other with
    | some otherPolicy => return .equality (slot == other || policy.equals otherPolicy)
    | none => return .noPolicy
  | .assign field => .ofExcept (.error (.fieldAssigned field))
  | .delete field => .ofExcept (.error (.fieldDeleted field))

/--
The session after a command, and the answer to it.  A slot whose policy is not
built stays empty: it is the script that gives up the earlier policy, by naming
its slot again, and not the recipe.
-/
def step (session : Session) : Command → Session × Logged Reply
  | .build slot recipe =>
    let built := recipe.build
    match built.outcome with
    | .ok policy => (session.insert slot policy, .policy <$> built)
    | .error _ => (session.erase slot, .policy <$> built)
  | .ask slot question =>
    match session.get? slot with
    | some policy => (session, session.answer slot policy question)
    | none => (session, return .noPolicy)

/-- The session after several commands, and the answers to them in order. -/
def run (session : Session) : List Command → Session × List (Logged Reply)
  | [] => (session, [])
  | command :: rest =>
    let (next, reply) := session.step command
    let (final, replies) := next.run rest
    (final, reply :: replies)

@[simp]
theorem get?_empty
    (slot : String) :
    empty.get? slot = none :=
  rfl

/-- A policy that was put into a slot is found there. -/
@[simp]
theorem get?_insert_self
    (session : Session)
    (slot : String)
    (policy : Policy) :
    (session.insert slot policy).get? slot = some policy := by
  simp [get?, insert]

/-- A slot that was emptied holds nothing. -/
@[simp]
theorem get?_erase_self
    (session : Session)
    (slot : String) :
    (session.erase slot).get? slot = none := by
  obtain ⟨slots⟩ := session
  induction slots with
  | nil => rfl
  | cons entry rest step =>
    obtain ⟨key, policy⟩ := entry
    by_cases same : key = slot
    · simpa [get?, erase, same] using step
    · simpa [get?, erase, same, List.lookup_cons, Ne.symm same, beq_eq_false_iff_ne.mpr] using step

/-- Emptying a slot leaves the others alone. -/
theorem get?_erase_of_ne
    (session : Session)
    {slot other : String}
    (different : other ≠ slot) :
    (session.erase slot).get? other = session.get? other := by
  obtain ⟨slots⟩ := session
  induction slots with
  | nil => rfl
  | cons entry rest step =>
    obtain ⟨key, policy⟩ := entry
    by_cases same : key = slot
    · subst same
      simpa [get?, erase, List.lookup_cons, beq_eq_false_iff_ne.mpr different] using step
    · by_cases found : other = key
      · simp [get?, erase, same, found]
      · simpa [get?, erase, same, List.lookup_cons, beq_eq_false_iff_ne.mpr found] using step

/-- Filling a slot leaves the others alone. -/
theorem get?_insert_of_ne
    (session : Session)
    {slot other : String}
    (policy : Policy)
    (different : other ≠ slot) :
    (session.insert slot policy).get? other = session.get? other := by
  have erased := session.get?_erase_of_ne different
  simpa [get?, insert, List.lookup_cons, beq_eq_false_iff_ne.mpr different] using erased

end Session

end Closeness

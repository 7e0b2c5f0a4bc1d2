import SlotDispatch.Dispatch.Plan
/-!
Call sites. A call site remembers the plans of the operand types that it has seen, until it has seen
more pairs of types than it may remember.
-/

namespace SlotDispatch

/-- A plan is remembered for two types in their generations. -/
structure CacheKey where
  left : TypeId
  right : TypeId
  leftGeneration : Nat
  rightGeneration : Nat
deriving DecidableEq, Repr

/-- Two keys are of one pair when they have the same types, in whatever generations. -/
def CacheKey.samePair (first second : CacheKey) : Bool :=
  first.left = second.left && first.right = second.right

/-- A remembered plan stands under its key. -/
structure CachedPlan where
  key : CacheKey
  plan : Plan

/-- A call site remembers plans, or it has given up and is megamorphic. -/
inductive SiteState where
  | remembering (plans : List CachedPlan)
  | megamorphic

/-- A call site evaluates one kind of operator. -/
structure CallSite where
  kind : SlotKind
  state : SiteState

namespace CallSite

/-- A new call site remembers nothing. -/
def new (kind : SlotKind) : CallSite :=
  ⟨kind, .remembering []⟩

/-- This is the plan that was remembered under exactly this key. -/
def lookup (site : CallSite) (key : CacheKey) : Option Plan :=
  match site.state with
  | .remembering plans => (plans.find? fun cached => cached.key = key).map CachedPlan.plan
  | .megamorphic => none

/-- A new plan replaces the plan of its pair, and a pair too many makes the site megamorphic. -/
def record (site : CallSite) (key : CacheKey) (plan : Plan) (capacity : Nat) : CallSite :=
  match site.state with
  | .megamorphic => site
  | .remembering plans =>
      let others := plans.filter fun cached => !cached.key.samePair key
      if capacity ≤ others.length then { site with state := .megamorphic }
      else { site with state := .remembering (others ++ [⟨key, plan⟩]) }

/-- A megamorphic site has given up. -/
def isMegamorphic (site : CallSite) : Bool :=
  match site.state with
  | .megamorphic => true
  | .remembering _ => false

/-- This is the number of pairs that the site remembers. -/
def size (site : CallSite) : Nat :=
  match site.state with
  | .remembering plans => plans.length
  | .megamorphic => 0

/-- This is the name of the state of the site. -/
def label (site : CallSite) : String :=
  match site.state with
  | .remembering [] => "uninitialized"
  | .remembering [_] => "monomorphic"
  | .remembering _ => "polymorphic"
  | .megamorphic => "megamorphic"

end CallSite

end SlotDispatch

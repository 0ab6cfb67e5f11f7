import SubscriptionClient.Value.Basic

/-!
# Intro eligibility

Whether a product may be bought at its introductory price. What the backend does not state as true
or false is unknown.
-/

namespace SubscriptionClient

inductive Eligibility where
  | unknown
  | ineligible
  | eligible
  deriving DecidableEq

namespace Eligibility

def all : List Eligibility := [unknown, ineligible, eligible]

theorem mem_all (e : Eligibility) : e ∈ all := by
  cases e <;> decide

def code : Eligibility → Int
  | unknown => 0
  | ineligible => 1
  | eligible => 2

def name : Eligibility → String
  | unknown => "UNKNOWN"
  | ineligible => "INELIGIBLE"
  | eligible => "ELIGIBLE"

/-- Only truth values say anything. -/
def ofMember? : Option Value → Eligibility
  | some (.bool true) => eligible
  | some (.bool false) => ineligible
  | _ => unknown

/-- One entry for each distinct product, at its first place. -/
def ofProducts (status : Value → Eligibility) (products : List Value) :
    List (Value × Eligibility) :=
  Value.collect (products.map fun p => (p, status p))

end Eligibility

end SubscriptionClient

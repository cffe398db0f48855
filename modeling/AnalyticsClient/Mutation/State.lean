import AnalyticsClient.Mutation.Token

/-! Mutation states: the writes that a query has to see. -/

namespace AnalyticsClient

/-- Some tokens in the order in which they were given; a token may come more than once. -/
structure MutationState where
  tokens : List MutationToken
deriving DecidableEq

namespace MutationState

/-- The state without tokens. -/
def empty : MutationState := ⟨[]⟩

/-- The state with one more token. -/
def add (state : MutationState) (token : MutationToken) : MutationState :=
  ⟨state.tokens ++ [token]⟩

/-- Translates tokens one by one; `index` counts them. -/
def translate (index : Nat) : List Json → Outcome (List MutationToken)
  | [] => .ok []
  | given :: rest => do
    let token ← MutationToken.ofCaller (UInt64.ofNat index) given
    let later ← translate (index + 1) rest
    return token :: later

/-- The state of the tokens that a caller hands over, or the fault of the first bad one. -/
def ofCaller (given : List Json) : Outcome MutationState :=
  (translate 0 given).map MutationState.mk

/-- A state as a plain value. -/
def encode (state : MutationState) : Json := .arr (state.tokens.map MutationToken.encode)

/-- Reads a state in its plain form. -/
def decode {σ : Type} [Wire.Source σ] : Wire.Decoder σ MutationState := fun source =>
  (Wire.list MutationToken.decode source).map MutationState.mk

end MutationState

end AnalyticsClient

import Replay.Text.Quoted

/-!
# Request methods

Only POST selects a stub, so a method is POST or some other token. Tokens are
case-sensitive.
-/

namespace Replay

/-- The method of a request. -/
inductive Method where
  | post
  /-- Any other method, by its token. -/
  | other (token : String)
deriving DecidableEq

namespace Method

/-- The method that a token names. -/
def ofToken (token : String) : Method :=
  if token = "POST" then .post else .other token

/-- The token of a method. -/
def token : Method → String
  | .post => "POST"
  | .other token => token

/-- The method as diagnostics show it. -/
def inspect : Method → String
  | .post => "Post"
  | .other token => "Other(" ++ Text.quoted token ++ ")"

theorem token_ofToken (token : String) : (ofToken token).token = token := by
  unfold ofToken
  split
  · next named => exact named.symm
  · rfl

theorem ofToken_eq_post {token : String} : ofToken token = .post ↔ token = "POST" := by
  unfold ofToken
  split <;> simp_all

end Method

end Replay

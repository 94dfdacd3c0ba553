/-
Names of agents and of sandboxes. Both are opaque tokens: nothing is read out of them, they are
compared and ordered as texts. A token comes from a supply, which numbers the tokens it has minted
and never mints the same number twice.
-/

namespace SessionForge

/-- The identity of one agent. -/
structure AgentIdentity where
  token : String
  deriving DecidableEq

/-- The name of a sandbox in which a project will run. -/
structure SandboxId where
  token : String
  deriving DecidableEq

/-! ### Order -/

instance : LE AgentIdentity where
  le a b := a.token ≤ b.token

instance : LE SandboxId where
  le a b := a.token ≤ b.token

instance (a b : AgentIdentity) : Decidable (a ≤ b) :=
  inferInstanceAs (Decidable (a.token ≤ b.token))

instance (a b : SandboxId) : Decidable (a ≤ b) :=
  inferInstanceAs (Decidable (a.token ≤ b.token))

/-- Identities in ascending order of their tokens. -/
def AgentIdentity.sort (identities : List AgentIdentity) : List AgentIdentity :=
  identities.mergeSort fun a b => decide (a ≤ b)

/-- Sandbox names in ascending order of their tokens. -/
def SandboxId.sort (ids : List SandboxId) : List SandboxId :=
  ids.mergeSort fun a b => decide (a ≤ b)

/-! ### Supplies of tokens -/

/-- A supply of tokens: the token of every number, and how many have been minted. -/
structure TokenSupply where
  token : Nat → String
  minted : Nat

namespace TokenSupply

/-- Mints the next token. -/
def mint (supply : TokenSupply) : String × TokenSupply :=
  (supply.token supply.minted, { supply with minted := supply.minted + 1 })

/-- Mints the identity of a new agent. -/
def mintAgent (supply : TokenSupply) : AgentIdentity × TokenSupply :=
  (⟨supply.mint.1⟩, supply.mint.2)

/-- Mints the name of a new sandbox. -/
def mintSandbox (supply : TokenSupply) : SandboxId × TokenSupply :=
  (⟨supply.mint.1⟩, supply.mint.2)

/-- The supply of one name with the numbers from one on. The number is kept in 64 bits, and starts
over at zero after the greatest. -/
def sequential (name : String) : TokenSupply :=
  ⟨fun number => name ++ "-" ++ toString ((number + 1) % UInt64.size), 0⟩

/-- The supply that goes through a list of tokens and starts over at its end. -/
def cycling (tokens : List String) : TokenSupply :=
  ⟨fun number => tokens.getD (number % tokens.length) "", 0⟩

end TokenSupply

end SessionForge

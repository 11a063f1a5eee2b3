/-
  OneAiKey.Auth — the authentication of clients and of management principals
  (`src/auth.rs`).

  A client shows its token in the `Authorization` header; the registry of client
  tokens holds digests.  Management principals are found in the same way.
-/
import OneAiKey.Config
import OneAiKey.Provider

namespace OneAiKey

structure AuthorizedClient where
  id : String
  name : String
  allowedModelGroups : List String
  allowedChannels : List String
  deriving DecidableEq, Repr

def ResolvedClientToken.authorized (token : ResolvedClientToken) : AuthorizedClient where
  id := token.id
  name := token.name
  allowedModelGroups := token.allowedModelGroups
  allowedChannels := token.allowedChannels

/-- The token of an `Authorization` header, if its value is text. -/
def bearerToken (authorization : Option String) : Option String :=
  (authorization.bind fun value => stripPrefix? "Bearer ".toList value.toList).map String.ofList

/-- `authorize_client`; without a client the answer is that the key is not valid. -/
def authorizeClient (hashToken : String → String) (clientTokens : List ResolvedClientToken)
    (authorization : Option String) : Option AuthorizedClient :=
  (bearerToken authorization).bind fun token =>
    (clientTokens.find? fun client => client.enabled && client.tokenHash == hashToken token).map
      (·.authorized)

structure AuthorizedManagementPrincipal where
  id : String
  name : String
  role : ManagementRole
  deriving DecidableEq, Repr

def ResolvedManagementPrincipal.authorized (principal : ResolvedManagementPrincipal) :
    AuthorizedManagementPrincipal where
  id := principal.id
  name := principal.name
  role := principal.role

/-- `authorize_management`; without a principal the answer is that the key is not valid. -/
def authorizeManagement (hashToken : String → String)
    (managementPrincipals : List ResolvedManagementPrincipal) (authorization : Option String) :
    Option AuthorizedManagementPrincipal :=
  (bearerToken authorization).bind fun token =>
    (managementPrincipals.find? fun principal =>
      principal.enabled && principal.tokenHash == hashToken token).map (·.authorized)

end OneAiKey

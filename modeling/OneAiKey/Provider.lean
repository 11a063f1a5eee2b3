/-
  OneAiKey.Provider — provider kinds, endpoint kinds and the upstream URL
  (`src/provider.rs`).

  Strings are handled as lists of characters where the source slices them:
  every slice of the URL code is at an ASCII character, so characters and
  bytes cut alike.
-/
import OneAiKey.Clock

namespace OneAiKey

inductive ProviderKind where
  | openAiCompatible
  | genericHttp
  deriving DecidableEq, Repr

inductive EndpointKind where
  | models
  | chatCompletions
  | responses
  | embeddings
  | generic
  deriving DecidableEq, Repr

/-! ## §1. The upstream URL. -/

/-- `trim_end_matches('/')`. -/
def trimEndSlashes (s : List Char) : List Char := (s.reverse.dropWhile (· == '/')).reverse

/-- `strip_prefix`. -/
def stripPrefix? (pre s : List Char) : Option (List Char) :=
  if pre.isPrefixOf s then some (s.drop pre.length) else none

/-- A base that ends in the version segment already supplies it. -/
def normalizeOpenaiUpstreamPath (base path : List Char) : List Char :=
  if "/v1".toList.isSuffixOf base then
    match stripPrefix? "/v1".toList path with
    | some rest => if rest.isEmpty || rest.head? == some '/' then rest else path
    | none => path
  else path

/-- `ProviderAdapter::upstream_url`. -/
def upstreamUrl (kind : ProviderKind) (apiBase path : String) (query : Option String) : String :=
  let base := trimEndSlashes apiBase.toList
  let path :=
    match kind with
    | .openAiCompatible => normalizeOpenaiUpstreamPath base path.toList
    | .genericHttp => path.toList
  let path := if path.head? == some '/' then path else '/' :: path
  match query with
  | some query =>
      if query.toList.isEmpty then String.ofList (base ++ path)
      else String.ofList (base ++ path ++ '?' :: query.toList)
  | none => String.ofList (base ++ path)

example : upstreamUrl .openAiCompatible "https://example.com/v1" "/v1/chat/completions" none
    = "https://example.com/v1/chat/completions" := by decide

end OneAiKey

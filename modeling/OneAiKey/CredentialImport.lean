/-
  OneAiKey.CredentialImport — the two importers of credentials
  (`src/credential_repository.rs`).

  `importRawCredentials` reads the lines of a key file, `appendCredentials…` takes a
  batch of secrets into the store, in one transaction.  Each goes over the lines once
  and puts a line aside as blank, as a duplicate, or takes it:

      blank                                   ignored
      in the batch before, stored, excluded   a duplicate occurrence
      else                                    an imported credential

  A stored secret that comes again gets the time at which it was last seen, and
  nothing else of its row changes.  `fault` is a failure of the database itself.
-/
import OneAiKey.EventFile
import OneAiKey.RegistryStore

namespace OneAiKey

/-! ## §1. The tables. -/

/-- `ImportedCredential` has the same fields. -/
abbrev ImportedCredential := PoolCredentialInput

/-- A row of `credential_sets`, whose key is the id of the set. -/
structure CredentialSetMetadata where
  sourcePath : String
  physicalLineCount : Nat
  nonEmptyCount : Nat
  uniqueCount : Nat
  duplicateOccurrenceCount : Nat
  ignoredEmptyCount : Nat
  invalidLineCount : Nat
  claimedCount : Option Nat
  claimSource : Option String
  importGeneration : Nat
  lastImportedAtUnixSeconds : Int
  deriving DecidableEq, Repr

/-- A row of `credentials`. -/
structure CredentialRow where
  credentialSetId : CredentialSetId
  credentialId : Option CredentialId
  secret : String
  sourcePath : Option String
  sourceLine : Option Nat
  batchId : Option String
  fingerprint : String
  label : Option String
  note : Option String
  position : Nat
  firstImportedAtUnixSeconds : Int
  lastSeenAtUnixSeconds : Int
  deriving DecidableEq, Repr

inductive CredentialImportSourceKind where
  | fileBootstrap
  | managementApi
  deriving DecidableEq, Repr

/-- A row of `credential_import_batches`. -/
structure CredentialImportBatchRow where
  credentialSetId : CredentialSetId
  batchId : String
  sourceKind : CredentialImportSourceKind
  sourceRef : Option String
  physicalLineCount : Nat
  nonEmptyCount : Nat
  uniqueCount : Nat
  duplicateOccurrenceCount : Nat
  ignoredEmptyCount : Nat
  invalidLineCount : Nat
  createdAtUnixSeconds : Int
  deriving DecidableEq, Repr

structure CredentialTables where
  credentialSets : IdMap CredentialSetMetadata
  credentials : List CredentialRow
  importBatches : List CredentialImportBatchRow

/-! ## §2. The statements. -/

/-- `COALESCE(source_line, position + 1)` of the set's row with the secret. -/
def existingSecretSourceLine (rows : List CredentialRow) (credentialSetId : CredentialSetId)
    (secret : String) : Option Nat :=
  (rows.find? fun row => row.credentialSetId == credentialSetId && row.secret == secret).map
    fun row => row.sourceLine.getD (row.position + 1)

def touchExistingCredentialLastSeen (rows : List CredentialRow)
    (credentialSetId : CredentialSetId) (secret : String) (now : Int) : List CredentialRow :=
  rows.map fun row =>
    if row.credentialSetId = credentialSetId ∧ row.secret = secret then
      { row with lastSeenAtUnixSeconds := now }
    else row

/-- `COALESCE(MAX(position) + 1, 0)` over the set. -/
def nextCredentialPosition (rows : List CredentialRow) (credentialSetId : CredentialSetId) :
    Nat :=
  ((rows.filter fun row => row.credentialSetId == credentialSetId).map (·.position)).max?.elim 0
    (· + 1)

def credentialIdForSecret (credentialSetId : CredentialSetId) (secret : String) : CredentialId :=
  "cred_" ++ shortHash (credentialSetId ++ ":" ++ secret)

section Fingerprint

-- the SHA-256 digest of a secret, in hexadecimal digits
variable (persistentFingerprint : String → String)

/-- The row that an import inserts. -/
def credentialRow (credentialSetId : CredentialSetId) (credential : ImportedCredential)
    (position : Nat) (importedAt : Int) : CredentialRow where
  credentialSetId := credentialSetId
  credentialId := some (credentialIdForSecret credentialSetId credential.secret)
  secret := credential.secret
  sourcePath := credential.source.sourcePath
  sourceLine := credential.source.sourceLine
  batchId := credential.source.batchId
  fingerprint := persistentFingerprint credential.secret
  label := none
  note := none
  position := position
  firstImportedAtUnixSeconds := importedAt
  lastSeenAtUnixSeconds := importedAt

/-- The primary key is the set and the fingerprint; positions are unique in a set. -/
def insertSqliteCredential (rows : List CredentialRow) (credentialSetId : CredentialSetId)
    (credential : ImportedCredential) (position : Nat) (importedAt : Int) :
    Except String (List CredentialRow) :=
  let row := credentialRow persistentFingerprint credentialSetId credential position importedAt
  if rows.any fun other =>
      other.credentialSetId == credentialSetId && other.fingerprint == row.fingerprint then
    .error ("UNIQUE constraint failed: credentials.credential_set_id, " ++
      "credentials.fingerprint")
  else if rows.any fun other =>
      other.credentialSetId == credentialSetId && other.position == position then
    .error "UNIQUE constraint failed: credentials.credential_set_id, credentials.position"
  else .ok (rows ++ [row])

def loadSqliteCredentialSetReport (sets : IdMap CredentialSetMetadata)
    (credentialSetId : CredentialSetId) : Except String KeyImportReport :=
  match sets.lookup credentialSetId with
  | none =>
      .error ("credential set " ++ credentialSetId ++ " has credentials but no metadata")
  | some row => .ok {
      sourcePath := row.sourcePath
      physicalLineCount := row.physicalLineCount
      nonEmptyCount := row.nonEmptyCount
      uniqueCount := row.uniqueCount
      duplicateOccurrenceCount := row.duplicateOccurrenceCount
      ignoredEmptyCount := row.ignoredEmptyCount
      invalidLineCount := row.invalidLineCount
      claimedCount := row.claimedCount
      claimSource := row.claimSource
      importGeneration := row.importGeneration
      lastImportedAtUnixSeconds := row.lastImportedAtUnixSeconds
      duplicateFingerprints := [] }

/-! ## §3. A batch of secrets. -/

/-- What the loop holds, with the table `credentials` as the transaction sees it. -/
structure AppendLoop where
  rows : List CredentialRow
  batchSeen : IdMap Nat
  credentials : List ImportedCredential
  duplicateFingerprints : List DuplicateCredentialOccurrence
  nonEmptyCount : Nat
  ignoredEmptyCount : Nat
  nextPosition : Nat

-- `clock i` is the time that the statement for line `i` reads
variable (credentialSetId : CredentialSetId) (batchId : String) (excludedSecrets : List String)
  (clock : Nat → Int)

/-- One turn of the loop, for a secret and its offset. -/
def appendSecret (s : AppendLoop) (line : String × Nat) : Except String AppendLoop :=
  let sourceLine := line.2 + 1
  let secret := trimString line.1
  let duplicate (firstSourceLine : Nat) : DuplicateCredentialOccurrence :=
    ⟨firstSourceLine, sourceLine, persistentFingerprint secret⟩
  if secret.isEmpty then .ok { s with ignoredEmptyCount := s.ignoredEmptyCount + 1 }
  else match s.batchSeen.lookup secret with
  | some firstSourceLine => .ok { s with
      nonEmptyCount := s.nonEmptyCount + 1
      duplicateFingerprints := s.duplicateFingerprints ++ [duplicate firstSourceLine] }
  | none =>
      match existingSecretSourceLine s.rows credentialSetId secret with
      | some firstSourceLine => .ok { s with
          rows := touchExistingCredentialLastSeen s.rows credentialSetId secret (clock line.2)
          nonEmptyCount := s.nonEmptyCount + 1
          duplicateFingerprints := s.duplicateFingerprints ++ [duplicate firstSourceLine] }
      | none =>
          if excludedSecrets.contains secret then .ok { s with
            nonEmptyCount := s.nonEmptyCount + 1
            duplicateFingerprints := s.duplicateFingerprints ++ [duplicate sourceLine] }
          else
            let imported : ImportedCredential :=
              ⟨secret, ⟨none, some sourceLine, some batchId⟩⟩
            (insertSqliteCredential persistentFingerprint s.rows credentialSetId imported
              s.nextPosition (clock line.2)).map fun rows =>
                { rows := rows
                  batchSeen := s.batchSeen.insert secret sourceLine
                  credentials := s.credentials ++ [imported]
                  duplicateFingerprints := s.duplicateFingerprints
                  nonEmptyCount := s.nonEmptyCount + 1
                  ignoredEmptyCount := s.ignoredEmptyCount
                  nextPosition := s.nextPosition + 1 }

def appendSecrets (s : AppendLoop) (lines : List (String × Nat)) : Except String AppendLoop :=
  lines.foldlM (appendSecret persistentFingerprint credentialSetId batchId excludedSecrets clock) s

/-- The transaction, with the tables that it commits. -/
def appendTransaction (tables : CredentialTables) (secrets : List String) :
    Except String (CredentialTables × KeyImport) := do
  ensure (tables.credentialSets.lookup credentialSetId).isSome
    ("unknown credential set " ++ credentialSetId)
  let nextPosition := nextCredentialPosition tables.credentials credentialSetId
  let s ← appendSecrets persistentFingerprint credentialSetId batchId excludedSecrets clock
    ⟨tables.credentials, ∅, [], [], 0, 0, nextPosition⟩ secrets.zipIdx
  let physicalLineCount := s.nonEmptyCount + s.ignoredEmptyCount
  let uniqueCount := s.credentials.length
  let duplicateOccurrenceCount := s.duplicateFingerprints.length
  -- `update_sqlite_import_counts`
  let credentialSets := IdMap.update tables.credentialSets credentialSetId fun row =>
    { row with
      physicalLineCount := row.physicalLineCount + physicalLineCount
      nonEmptyCount := row.nonEmptyCount + s.nonEmptyCount
      uniqueCount := row.uniqueCount + uniqueCount
      duplicateOccurrenceCount := row.duplicateOccurrenceCount + duplicateOccurrenceCount
      ignoredEmptyCount := row.ignoredEmptyCount + s.ignoredEmptyCount
      importGeneration := row.importGeneration + 1
      lastImportedAtUnixSeconds := clock secrets.length }
  let batch : CredentialImportBatchRow :=
    ⟨credentialSetId, batchId, .managementApi, none, physicalLineCount, s.nonEmptyCount,
      uniqueCount, duplicateOccurrenceCount, s.ignoredEmptyCount, 0,
      clock (secrets.length + 1)⟩
  let setReport ← loadSqliteCredentialSetReport credentialSets credentialSetId
  return (⟨credentialSets, s.rows, tables.importBatches ++ [batch]⟩, {
    credentials := s.credentials
    report := {
      sourcePath := batchId
      physicalLineCount := physicalLineCount
      nonEmptyCount := s.nonEmptyCount
      uniqueCount := uniqueCount
      duplicateOccurrenceCount := duplicateOccurrenceCount
      ignoredEmptyCount := s.ignoredEmptyCount
      invalidLineCount := 0
      claimedCount := none
      claimSource := none
      importGeneration := setReport.importGeneration
      lastImportedAtUnixSeconds := setReport.lastImportedAtUnixSeconds
      duplicateFingerprints := s.duplicateFingerprints } })

/-- A transaction that is not committed leaves the tables as they were. -/
def appendCredentialsExcludingSecrets (tables : CredentialTables) (secrets : List String)
    (fault : Option String) : CredentialTables × Except String KeyImport :=
  match fault with
  | some message => (tables, .error message)
  | none =>
      match appendTransaction persistentFingerprint credentialSetId batchId excludedSecrets
        clock tables secrets with
      | .error message => (tables, .error message)
      | .ok (tables', keyImport) => (tables', .ok keyImport)

end Fingerprint

/-! ## §4. The lines of a file. -/

structure CredentialImportOrigin where
  credentialSetId : CredentialSetId
  sourcePath : String
  claimedCount : Option Nat
  claimSource : Option String

/-- `split_inclusive` at the newlines. -/
def splitInclusive : List Char → List (List Char)
  | [] => []
  | c :: text =>
      if c = '\n' then [c] :: splitInclusive text
      else match splitInclusive text with
        | [] => [[c]]
        | line :: lines => (c :: line) :: lines

/-- `str::lines`. -/
def strLines (raw : String) : List String :=
  (splitInclusive raw.toList).map fun line => String.ofList (chomp line)

structure ImportLoop where
  credentials : List ImportedCredential
  seen : IdMap Nat
  nonEmptyCount : Nat
  ignoredEmptyCount : Nat
  duplicates : List DuplicateCredentialOccurrence

/-- One turn of the loop, for a line and its offset. -/
def importLine (origin : CredentialImportOrigin) (s : ImportLoop) (line : String × Nat) :
    ImportLoop :=
  let sourceLine := line.2 + 1
  let key := trimString line.1
  if key.isEmpty then { s with ignoredEmptyCount := s.ignoredEmptyCount + 1 }
  else
    let fingerprint := shortHash key
    match s.seen.lookup key with
    | some firstSourceLine => { s with
        nonEmptyCount := s.nonEmptyCount + 1
        duplicates := s.duplicates ++ [⟨firstSourceLine, sourceLine, fingerprint⟩] }
    | none => { s with
        nonEmptyCount := s.nonEmptyCount + 1
        seen := s.seen.insert key sourceLine
        credentials := s.credentials ++
          [⟨key, ⟨some origin.sourcePath, some sourceLine, some origin.credentialSetId⟩⟩] }

def importRawCredentials (raw : String) (origin : CredentialImportOrigin) (now : Int) :
    Except String KeyImport := do
  let s := (strLines raw).zipIdx.foldl (importLine origin) ⟨[], ∅, 0, 0, []⟩
  ensure (!s.credentials.isEmpty) ("no keys in " ++ origin.sourcePath)
  return {
    credentials := s.credentials
    report := {
      sourcePath := origin.sourcePath
      physicalLineCount := (strLines raw).length
      nonEmptyCount := s.nonEmptyCount
      uniqueCount := s.credentials.length
      duplicateOccurrenceCount := s.duplicates.length
      ignoredEmptyCount := s.ignoredEmptyCount
      invalidLineCount := 0
      claimedCount := origin.claimedCount
      claimSource := origin.claimSource
      importGeneration := 1
      lastImportedAtUnixSeconds := now
      duplicateFingerprints := s.duplicates } }

end OneAiKey

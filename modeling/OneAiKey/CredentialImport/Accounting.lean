/-
  OneAiKey.CredentialImport.Accounting — an import accounts for every line
  (`src/credential_repository.rs`).

  The lines that are not blank are split once, by their trimmed secret: the first
  occurrence of a secret that is not known is taken, every other is a duplicate
  (`FirstOccurrence`).  What is known at the start makes the difference between the
  importers: nothing for a key file, the stored and the excluded secrets for a batch.

  One lemma says what a line does (`appendSecret_cases`), one what a run over lines
  does (`appendSecrets_spec`), from any state of the loop.

  Main result:
    * `append_accounts_for_every_line` — counts, credentials, rows and duplicates of a
      batch, and what it has in common with the import of a file.
-/
import OneAiKey.CredentialImport
import OneAiKey.Lib.FirstOccurrence

namespace OneAiKey

open Collect FirstOccurrence

/-! ## §1. The lines. -/

def secretOf (line : String × Nat) : String := trimString line.1

def nonBlank (lines : List (String × Nat)) : List (String × Nat) :=
  lines.filter fun line => !(secretOf line).isEmpty

theorem nonBlank_cons_of_blank {line : String × Nat} (h : (secretOf line).isEmpty = true)
    (lines : List (String × Nat)) : nonBlank (line :: lines) = nonBlank lines := by
  unfold nonBlank
  rw [List.filter_cons_of_neg]
  simp [h]

theorem nonBlank_cons {line : String × Nat} (h : (secretOf line).isEmpty = false)
    (lines : List (String × Nat)) : nonBlank (line :: lines) = line :: nonBlank lines := by
  unfold nonBlank
  rw [List.filter_cons_of_pos]
  simp [h]

/-- The secrets that the set has. -/
def storedSecrets (rows : List CredentialRow) (credentialSetId : CredentialSetId) :
    List String :=
  (rows.filter fun row => row.credentialSetId == credentialSetId).map (·.secret)

theorem mem_storedSecrets {rows : List CredentialRow} {credentialSetId : CredentialSetId}
    {secret : String} : secret ∈ storedSecrets rows credentialSetId ↔
      ∃ row ∈ rows, row.credentialSetId = credentialSetId ∧ row.secret = secret := by
  unfold storedSecrets
  simp [and_assoc]

/-- A secret has a source line just when a row of the set holds it. -/
theorem existingSecretSourceLine_isSome_iff {rows : List CredentialRow}
    {credentialSetId : CredentialSetId} {secret : String} :
    (existingSecretSourceLine rows credentialSetId secret).isSome = true ↔
      secret ∈ storedSecrets rows credentialSetId := by
  unfold existingSecretSourceLine
  rw [Option.isSome_map, List.find?_isSome, mem_storedSecrets]
  simp

/-! ## §2. The rows that stay. -/

/-- A row of before and the same row afterwards: at most the time at which it was last
seen has changed, and not even that if the batch brought the secret. -/
def CredentialRow.Kept (batchSeen : IdMap Nat) (row row' : CredentialRow) : Prop :=
  row' = { row with lastSeenAtUnixSeconds := row'.lastSeenAtUnixSeconds } ∧
    (row.secret ∈ batchSeen → row' = row)

section Kept

variable {batchSeen : IdMap Nat} {rows rows' rows'' : List CredentialRow}

theorem CredentialRow.Kept.refl (row : CredentialRow) : row.Kept batchSeen row :=
  ⟨rfl, fun _ => rfl⟩

theorem kept_refl (rows : List CredentialRow) :
    List.Forall₂ (CredentialRow.Kept batchSeen) rows rows :=
  List.forall₂_same.mpr fun row _ => .refl row

/-- What two batches keep one after the other, both together keep. -/
theorem kept_trans (h : List.Forall₂ (CredentialRow.Kept batchSeen) rows rows')
    (h' : List.Forall₂ (CredentialRow.Kept batchSeen) rows' rows'') :
    List.Forall₂ (CredentialRow.Kept batchSeen) rows rows'' := by
  induction h generalizing rows'' with
  | nil =>
      cases h'
      exact .nil
  | @cons row row' rows rows' hrow _ ih =>
      cases h' with
      | @cons _ row'' _ rows'' hrow' hrows' =>
          refine .cons ⟨?_, ?_⟩ (ih hrows')
          · rw [hrow'.1, hrow.1]
          · intro hmem
            have heq := hrow.2 hmem
            exact (hrow'.2 (heq ▸ hmem)).trans heq

theorem CredentialRow.Kept.mono {batchSeen' : IdMap Nat}
    (hsub : ∀ secret, secret ∈ batchSeen → secret ∈ batchSeen') {row row' : CredentialRow}
    (h : row.Kept batchSeen' row') : row.Kept batchSeen row' :=
  ⟨h.1, fun hmem => h.2 (hsub _ hmem)⟩

/-- Kept rows hold the secrets that they held. -/
theorem storedSecrets_kept (h : List.Forall₂ (CredentialRow.Kept batchSeen) rows rows')
    (credentialSetId : CredentialSetId) :
    storedSecrets rows' credentialSetId = storedSecrets rows credentialSetId := by
  unfold storedSecrets
  induction h with
  | nil => rfl
  | @cons row row' rows rows' hrow _ ih =>
      have hset : row'.credentialSetId = row.credentialSetId := by rw [hrow.1]
      have hsecret : row'.secret = row.secret := by rw [hrow.1]
      rw [List.filter_cons, List.filter_cons, hset]
      split
      · rw [List.map_cons, List.map_cons, ih, hsecret]
      · exact ih

/-- Only rows with the secret are touched. -/
theorem kept_touchExistingCredentialLastSeen (credentialSetId : CredentialSetId)
    {secret : String} (hsecret : secret ∉ batchSeen) (now : Int) (rows : List CredentialRow) :
    List.Forall₂ (CredentialRow.Kept batchSeen) rows
      (touchExistingCredentialLastSeen rows credentialSetId secret now) := by
  unfold touchExistingCredentialLastSeen
  rw [List.forall₂_map_right_iff]
  refine List.forall₂_same.mpr fun row _ => ?_
  by_cases htouched : row.credentialSetId = credentialSetId ∧ row.secret = secret
  · rw [if_pos htouched]
    exact ⟨rfl, fun hmem => absurd (htouched.2 ▸ hmem) hsecret⟩
  · rw [if_neg htouched]
    exact .refl row

/-- A list that corresponds to one with a last row has a last row. -/
theorem kept_concat {row : CredentialRow}
    (h : List.Forall₂ (CredentialRow.Kept batchSeen) (rows ++ [row]) rows') :
    ∃ kept last, List.Forall₂ (CredentialRow.Kept batchSeen) rows kept ∧
      row.Kept batchSeen last ∧ rows' = kept ++ [last] := by
  induction rows generalizing rows' with
  | nil =>
      cases h with
      | cons hrow hrest =>
          cases hrest
          exact ⟨[], _, .nil, hrow, rfl⟩
  | cons first rows ih =>
      cases h with
      | cons hfirst hrest =>
          obtain ⟨kept, last, hkept, hlast, rfl⟩ := ih hrest
          exact ⟨_ :: kept, last, .cons hfirst hkept, hlast, rfl⟩

end Kept

/-! ## §3. One line. -/

/-- What a line is taken to. -/
def importedFrom (batchId : String) (line : String × Nat) : ImportedCredential :=
  ⟨secretOf line, ⟨none, some (line.2 + 1), some batchId⟩⟩

section Append

variable (persistentFingerprint : String → String) (credentialSetId : CredentialSetId)
  (batchId : String) (excludedSecrets : List String) (clock : Nat → Int)

/-- The secret is a duplicate for the loop. -/
def AppendLoop.Known (s : AppendLoop) (secret : String) : Prop :=
  secret ∈ s.batchSeen ∨ secret ∈ storedSecrets s.rows credentialSetId ∨
    secret ∈ excludedSecrets

variable {persistentFingerprint credentialSetId batchId excludedSecrets clock}

/-- The loop behind a blank line. -/
def AppendLoop.ignore (s : AppendLoop) : AppendLoop :=
  { s with ignoredEmptyCount := s.ignoredEmptyCount + 1 }

/-- The loop behind a duplicate. -/
def AppendLoop.repeated (s : AppendLoop) (rows : List CredentialRow)
    (duplicate : DuplicateCredentialOccurrence) : AppendLoop :=
  { s with
    rows := rows
    nonEmptyCount := s.nonEmptyCount + 1
    duplicateFingerprints := s.duplicateFingerprints ++ [duplicate] }

variable (persistentFingerprint credentialSetId batchId clock) in
/-- The row of a taken line. -/
def rowFrom (position : Nat) (line : String × Nat) : CredentialRow :=
  credentialRow persistentFingerprint credentialSetId (importedFrom batchId line) position
    (clock line.2)

variable (persistentFingerprint credentialSetId batchId clock) in
/-- The loop behind a line that is taken. -/
def AppendLoop.take (s : AppendLoop) (line : String × Nat) : AppendLoop :=
  { s with
    rows := s.rows ++
      [rowFrom persistentFingerprint credentialSetId batchId clock s.nextPosition line]
    batchSeen := s.batchSeen.insert (secretOf line) (line.2 + 1)
    credentials := s.credentials ++ [importedFrom batchId line]
    nonEmptyCount := s.nonEmptyCount + 1
    nextPosition := s.nextPosition + 1 }

/-- A credential that is inserted is one row more, at the end. -/
theorem insertSqliteCredential_ok {rows rows' : List CredentialRow}
    {credential : ImportedCredential} {position : Nat} {importedAt : Int}
    (h : insertSqliteCredential persistentFingerprint rows credentialSetId credential position
      importedAt = .ok rows') :
    rows' = rows ++
      [credentialRow persistentFingerprint credentialSetId credential position importedAt] := by
  unfold insertSqliteCredential at h
  dsimp only at h
  split at h
  · cases h
  split at h
  · cases h
  exact (Except.ok.inj h).symm

/-- A line is blank, a duplicate, or taken. -/
theorem appendSecret_cases {s s' : AppendLoop} {line : String × Nat}
    (h : appendSecret persistentFingerprint credentialSetId batchId excludedSecrets clock s
      line = .ok s') :
    ((secretOf line).isEmpty = true ∧ s' = s.ignore) ∨
    ((secretOf line).isEmpty = false ∧
      s.Known credentialSetId excludedSecrets (secretOf line) ∧
      ∃ rows firstSourceLine, List.Forall₂ (CredentialRow.Kept s.batchSeen) s.rows rows ∧
        s' = s.repeated rows
          ⟨firstSourceLine, line.2 + 1, persistentFingerprint (secretOf line)⟩) ∨
    ((secretOf line).isEmpty = false ∧
      ¬ s.Known credentialSetId excludedSecrets (secretOf line) ∧
      s' = s.take persistentFingerprint credentialSetId batchId clock line) := by
  have hsecret : trimString line.1 = secretOf line := rfl
  unfold appendSecret at h
  dsimp only at h
  rw [hsecret] at h
  by_cases hblank : (secretOf line).isEmpty = true
  · rw [if_pos hblank] at h
    exact .inl ⟨hblank, (Except.ok.inj h).symm⟩
  rw [if_neg hblank] at h
  rw [Bool.not_eq_true] at hblank
  refine .inr ?_
  cases hbatch : s.batchSeen.lookup (secretOf line) with
  | some firstSourceLine =>
      -- a line of the batch had the secret: the rows stay as they are
      rw [hbatch] at h
      refine .inl ⟨hblank, .inl (Finmap.mem_iff.mpr ⟨_, hbatch⟩), s.rows, firstSourceLine,
        kept_refl _, (Except.ok.inj h).symm⟩
  | none =>
      rw [hbatch] at h
      have hfresh : secretOf line ∉ s.batchSeen := Finmap.lookup_eq_none.mp hbatch
      cases hstored : existingSecretSourceLine s.rows credentialSetId (secretOf line) with
      | some firstSourceLine =>
          -- its row is touched, and of that row the time only
          rw [hstored] at h
          refine .inl ⟨hblank, .inr (.inl ?_), _, firstSourceLine,
            kept_touchExistingCredentialLastSeen credentialSetId hfresh (clock line.2) s.rows,
            (Except.ok.inj h).symm⟩
          rw [← existingSecretSourceLine_isSome_iff]
          rw [hstored]
          rfl
      | none =>
          rw [hstored] at h
          have hunstored : secretOf line ∉ storedSecrets s.rows credentialSetId := by
            rw [← existingSecretSourceLine_isSome_iff]
            rw [hstored]
            exact Bool.false_ne_true
          dsimp only at h
          by_cases hexcluded : excludedSecrets.contains (secretOf line) = true
          · rw [if_pos hexcluded] at h
            exact .inl ⟨hblank, .inr (.inr (List.contains_iff_mem.mp hexcluded)), s.rows, _,
              kept_refl _, (Except.ok.inj h).symm⟩
          · rw [if_neg hexcluded] at h
            refine .inr ⟨hblank, ?_, ?_⟩
            -- the three lookups are all that `Known` asks for
            · intro hknown
              rcases hknown with hmem | hmem | hmem
              · exact hfresh hmem
              · exact hunstored hmem
              · exact hexcluded (List.contains_iff_mem.mpr hmem)
            · cases hinsert : insertSqliteCredential persistentFingerprint s.rows credentialSetId
                ⟨secretOf line, ⟨none, some (line.2 + 1), some batchId⟩⟩ s.nextPosition
                (clock line.2) with
              | error message =>
                  rw [hinsert] at h
                  cases h
              | ok rows =>
                  rw [hinsert] at h
                  obtain rfl := insertSqliteCredential_ok hinsert
                  exact (Except.ok.inj h).symm

/-! ## §4. A run over lines. -/

/-- A duplicate makes no secret known. -/
theorem known_repeated {s : AppendLoop} {rows : List CredentialRow}
    {duplicate : DuplicateCredentialOccurrence}
    (hkept : List.Forall₂ (CredentialRow.Kept s.batchSeen) s.rows rows) (secret : String) :
    (s.repeated rows duplicate).Known credentialSetId excludedSecrets secret ↔
      s.Known credentialSetId excludedSecrets secret := by
  unfold AppendLoop.Known AppendLoop.repeated
  rw [storedSecrets_kept hkept]

/-- A line that is taken makes its secret known. -/
theorem known_take (s : AppendLoop) (line : String × Nat) (secret : String) :
    (s.take persistentFingerprint credentialSetId batchId clock line).Known credentialSetId
        excludedSecrets secret ↔
      secret = secretOf line ∨ s.Known credentialSetId excludedSecrets secret := by
  -- the row of the line is one more
  have hstored : secret ∈ storedSecrets
        (s.take persistentFingerprint credentialSetId batchId clock line).rows credentialSetId ↔
      secret ∈ storedSecrets s.rows credentialSetId ∨ secret = secretOf line := by
    rw [mem_storedSecrets, mem_storedSecrets]
    constructor
    · intro ⟨row, hrow, hset, hsecret⟩
      rcases List.mem_append.mp hrow with hrow | hrow
      · exact .inl ⟨row, hrow, hset, hsecret⟩
      · rw [List.mem_singleton.mp hrow] at hsecret
        exact .inr hsecret.symm
    · intro hmem
      rcases hmem with ⟨row, hrow, hset, hsecret⟩ | rfl
      · exact ⟨row, List.mem_append_left _ hrow, hset, hsecret⟩
      · exact ⟨_, List.mem_append_right _ (List.mem_singleton_self _), rfl, rfl⟩
  unfold AppendLoop.Known
  rw [hstored]
  unfold AppendLoop.take
  rw [Finmap.mem_insert]
  tauto

variable (persistentFingerprint credentialSetId batchId clock) in
/-- The rows of the taken lines, with consecutive positions. -/
def newRows : Nat → List (String × Nat) → List CredentialRow
  | _, [] => []
  | position, line :: taken =>
      rowFrom persistentFingerprint credentialSetId batchId clock position line ::
        newRows (position + 1) taken

variable (persistentFingerprint credentialSetId batchId clock) in
/-- What a run over lines does to the loop, if `seen` is what is known at its start. -/
structure Appended (seen : List String) (lines : List (String × Nat)) (s s' : AppendLoop) :
    Prop where
  credentials : s'.credentials =
    s.credentials ++ (firsts secretOf seen (nonBlank lines)).map (importedFrom batchId)
  rows : ∃ old, List.Forall₂ (CredentialRow.Kept s.batchSeen) s.rows old ∧
    s'.rows = old ++ newRows persistentFingerprint credentialSetId batchId clock s.nextPosition
      (firsts secretOf seen (nonBlank lines))
  nonEmptyCount : s'.nonEmptyCount = s.nonEmptyCount + (nonBlank lines).length
  physicalLineCount : s'.nonEmptyCount + s'.ignoredEmptyCount =
    s.nonEmptyCount + s.ignoredEmptyCount + lines.length
  duplicates : s'.duplicateFingerprints.map (·.duplicateSourceLine) =
    s.duplicateFingerprints.map (·.duplicateSourceLine) ++
      (repeats secretOf seen (nonBlank lines)).map fun line => line.2 + 1

section Steps

variable {line : String × Nat} {lines : List (String × Nat)} {seen : List String}
  {s s' : AppendLoop}

theorem Appended.nil (s : AppendLoop) :
    Appended persistentFingerprint credentialSetId batchId clock seen [] s s where
  credentials := (List.append_nil _).symm
  rows := ⟨s.rows, kept_refl _, (List.append_nil _).symm⟩
  nonEmptyCount := rfl
  physicalLineCount := rfl
  duplicates := (List.append_nil _).symm

theorem Appended.ignore (hblank : (secretOf line).isEmpty = true)
    (h : Appended persistentFingerprint credentialSetId batchId clock seen lines s.ignore s') :
    Appended persistentFingerprint credentialSetId batchId clock seen (line :: lines) s s' := by
  refine ⟨?_, ?_, ?_, ?_, ?_⟩
  · rw [nonBlank_cons_of_blank hblank]
    exact h.credentials
  · rw [nonBlank_cons_of_blank hblank]
    exact h.rows
  · rw [nonBlank_cons_of_blank hblank]
    exact h.nonEmptyCount
  · have hcount : s'.nonEmptyCount + s'.ignoredEmptyCount =
        s.nonEmptyCount + (s.ignoredEmptyCount + 1) + lines.length := h.physicalLineCount
    rw [List.length_cons]
    omega
  · rw [nonBlank_cons_of_blank hblank]
    exact h.duplicates

theorem Appended.repeated {rows : List CredentialRow} {firstSourceLine : Nat}
    {fingerprint : String} (hblank : (secretOf line).isEmpty = false)
    (hmem : secretOf line ∈ seen)
    (hkept : List.Forall₂ (CredentialRow.Kept s.batchSeen) s.rows rows)
    (h : Appended persistentFingerprint credentialSetId batchId clock seen lines
      (s.repeated rows ⟨firstSourceLine, line.2 + 1, fingerprint⟩) s') :
    Appended persistentFingerprint credentialSetId batchId clock seen (line :: lines) s s' := by
  refine ⟨?_, ?_, ?_, ?_, ?_⟩
  · rw [nonBlank_cons hblank, firsts_cons_of_mem hmem]
    exact h.credentials
  · rw [nonBlank_cons hblank, firsts_cons_of_mem hmem]
    obtain ⟨old, hold, hrows⟩ := h.rows
    exact ⟨old, kept_trans hkept hold, hrows⟩
  · have hcount : s'.nonEmptyCount = s.nonEmptyCount + 1 + (nonBlank lines).length :=
      h.nonEmptyCount
    rw [nonBlank_cons hblank, List.length_cons]
    omega
  · have hcount : s'.nonEmptyCount + s'.ignoredEmptyCount =
        s.nonEmptyCount + 1 + s.ignoredEmptyCount + lines.length := h.physicalLineCount
    rw [List.length_cons]
    omega
  · rw [nonBlank_cons hblank, repeats_cons_of_mem hmem, h.duplicates, List.map_cons]
    show (s.duplicateFingerprints ++ [_]).map _ ++ _ = _
    rw [List.map_append, List.append_assoc]
    rfl

theorem Appended.take (hblank : (secretOf line).isEmpty = false) (hnew : secretOf line ∉ seen)
    (h : Appended persistentFingerprint credentialSetId batchId clock (secretOf line :: seen)
      lines (s.take persistentFingerprint credentialSetId batchId clock line) s') :
    Appended persistentFingerprint credentialSetId batchId clock seen (line :: lines) s s' := by
  refine ⟨?_, ?_, ?_, ?_, ?_⟩
  · rw [nonBlank_cons hblank, firsts_cons_of_notMem hnew, h.credentials]
    exact List.append_assoc _ _ _
  · rw [nonBlank_cons hblank, firsts_cons_of_notMem hnew]
    obtain ⟨old, hold, hrows⟩ := h.rows
    -- the new row stays as it is: its secret is in the batch
    obtain ⟨kept, last, hkept, hlast, rfl⟩ := kept_concat hold
    have hlast' := hlast.2 (Finmap.mem_insert.mpr (.inl rfl))
    refine ⟨kept, hkept.imp fun row row' hrow =>
      hrow.mono fun secret hsecret => Finmap.mem_insert.mpr (.inr hsecret), ?_⟩
    rw [hrows, hlast', List.append_assoc]
    rfl
  · have hcount : s'.nonEmptyCount = s.nonEmptyCount + 1 + (nonBlank lines).length :=
      h.nonEmptyCount
    rw [nonBlank_cons hblank, List.length_cons]
    omega
  · have hcount : s'.nonEmptyCount + s'.ignoredEmptyCount =
        s.nonEmptyCount + 1 + s.ignoredEmptyCount + lines.length := h.physicalLineCount
    rw [List.length_cons]
    omega
  · rw [nonBlank_cons hblank, repeats_cons_of_notMem hnew]
    exact h.duplicates

/-- Line by line, each kind of line as it adds to the run behind it. -/
theorem appendSecrets_spec
    (hseen : ∀ secret, s.Known credentialSetId excludedSecrets secret ↔ secret ∈ seen)
    (h : appendSecrets persistentFingerprint credentialSetId batchId excludedSecrets clock s
      lines = .ok s') :
    Appended persistentFingerprint credentialSetId batchId clock seen lines s s' := by
  induction lines generalizing s seen with
  | nil =>
      obtain rfl := Except.ok.inj h
      exact .nil s
  | cons line lines ih =>
      unfold appendSecrets at h
      rw [List.foldlM_cons] at h
      obtain ⟨next, hnext, hrest⟩ := bind_eq_ok.mp h
      rcases appendSecret_cases hnext with ⟨hblank, rfl⟩ |
        ⟨hblank, hknown, rows, firstSourceLine, hkept, rfl⟩ | ⟨hblank, hnew, rfl⟩
      · exact .ignore hblank (ih hseen hrest)
      · refine .repeated hblank ((hseen _).mp hknown) hkept (ih ?_ hrest)
        exact fun secret => (known_repeated hkept secret).trans (hseen secret)
      · refine .take hblank (fun hmem => hnew ((hseen _).mpr hmem)) (ih ?_ hrest)
        intro secret
        rw [known_take, hseen, List.mem_cons]

end Steps

end Append

/-! ## §5. The two importers. -/

/-- A line of a file is blank, a duplicate, or taken. -/
theorem importLine_cases (origin : CredentialImportOrigin) (s : ImportLoop)
    (line : String × Nat) :
    ((secretOf line).isEmpty = true ∧
      importLine origin s line = { s with ignoredEmptyCount := s.ignoredEmptyCount + 1 }) ∨
    ((secretOf line).isEmpty = false ∧ secretOf line ∈ s.seen ∧
      ∃ duplicate, importLine origin s line = { s with
        nonEmptyCount := s.nonEmptyCount + 1
        duplicates := s.duplicates ++ [duplicate] }) ∨
    ((secretOf line).isEmpty = false ∧ secretOf line ∉ s.seen ∧
      importLine origin s line = { s with
        nonEmptyCount := s.nonEmptyCount + 1
        seen := s.seen.insert (secretOf line) (line.2 + 1)
        credentials := s.credentials ++ [⟨secretOf line, ⟨some origin.sourcePath,
          some (line.2 + 1), some origin.credentialSetId⟩⟩] }) := by
  have hsecret : trimString line.1 = secretOf line := rfl
  unfold importLine
  rw [hsecret]
  by_cases hblank : (secretOf line).isEmpty = true
  · rw [if_pos hblank]
    exact .inl ⟨hblank, rfl⟩
  · rw [if_neg hblank]
    rw [Bool.not_eq_true] at hblank
    refine .inr ?_
    dsimp only
    cases hfound : s.seen.lookup (secretOf line) with
    | some firstSourceLine =>
        exact .inl ⟨hblank, Finmap.mem_iff.mpr ⟨_, hfound⟩, _, rfl⟩
    | none => exact .inr ⟨hblank, Finmap.lookup_eq_none.mp hfound, rfl⟩

/-- The credentials of a file, and the sources that they get. -/
theorem importLines_credentials {origin : CredentialImportOrigin} {lines : List (String × Nat)}
    {seen : List String} {s : ImportLoop} (hseen : ∀ secret, secret ∈ s.seen ↔ secret ∈ seen) :
    (lines.foldl (importLine origin) s).credentials = s.credentials ++
      (firsts secretOf seen (nonBlank lines)).map fun line =>
        ⟨secretOf line,
          ⟨some origin.sourcePath, some (line.2 + 1), some origin.credentialSetId⟩⟩ := by
  induction lines generalizing s seen with
  | nil => exact (List.append_nil _).symm
  | cons line lines ih =>
      rw [List.foldl_cons]
      rcases importLine_cases origin s line with ⟨hblank, hstep⟩ |
        ⟨hblank, hknown, duplicate, hstep⟩ | ⟨hblank, hnew, hstep⟩
      · rw [hstep, nonBlank_cons_of_blank hblank]
        exact ih hseen
      · rw [hstep, nonBlank_cons hblank, firsts_cons_of_mem ((hseen _).mp hknown)]
        exact ih hseen
      · have hseen' : ∀ secret, secret ∈ s.seen.insert (secretOf line) (line.2 + 1) ↔
            secret ∈ secretOf line :: seen := by
          intro secret
          rw [Finmap.mem_insert, List.mem_cons, hseen]
        rw [hstep, nonBlank_cons hblank, firsts_cons_of_notMem (mt (hseen _).mpr hnew), ih hseen']
        exact List.append_assoc _ _ _

/-- The secrets that an import accepts, with their lines; a failed one accepts none. -/
def acceptedLines : Except String KeyImport → List (String × Option Nat)
  | .ok keyImport => keyImport.credentials.map fun c => (c.secret, c.source.sourceLine)
  | .error _ => []

theorem acceptedLines_importRawCredentials (raw : String) (origin : CredentialImportOrigin)
    (now : Int) :
    acceptedLines (importRawCredentials raw origin now) =
      (firsts secretOf [] (nonBlank (strLines raw).zipIdx)).map fun line =>
        (secretOf line, some (line.2 + 1)) := by
  have hcredentials := @importLines_credentials origin (strLines raw).zipIdx []
    ⟨[], ∅, 0, 0, []⟩ fun _ => iff_of_false Finmap.notMem_empty List.not_mem_nil
  rw [List.nil_append] at hcredentials
  unfold importRawCredentials
  dsimp only
  cases hempty : ((strLines raw).zipIdx.foldl (importLine origin)
      ⟨[], ∅, 0, 0, []⟩).credentials.isEmpty with
  | true =>
      rw [List.isEmpty_iff, hcredentials, List.map_eq_nil_iff] at hempty
      rw [hempty]
      rfl
  | false =>
      show (_ : List ImportedCredential).map _ = _
      rw [hcredentials, List.map_map]
      rfl

/-! ## §6. The account. -/

section Account

variable (persistentFingerprint : String → String) (credentialSetId : CredentialSetId)
  (batchId : String) (excludedSecrets : List String) (clock : Nat → Int)

/-- The lines that a batch adds to the set. -/
def takenLines (tables : CredentialTables) (secrets : List String) : List (String × Nat) :=
  firsts secretOf (storedSecrets tables.credentials credentialSetId ++ excludedSecrets)
    (nonBlank secrets.zipIdx)

/-- An import that succeeds has counted every line, and has added the first occurrences
of the secrets that were neither stored nor excluded. -/
structure ImportAccounted (tables tables' : CredentialTables) (secrets : List String)
    (keyImport : KeyImport) : Prop where
  physical : keyImport.report.physicalLineCount = secrets.length ∧
    keyImport.report.physicalLineCount =
      keyImport.report.nonEmptyCount + keyImport.report.ignoredEmptyCount
  nonEmpty : keyImport.report.nonEmptyCount =
    keyImport.report.uniqueCount + keyImport.report.duplicateOccurrenceCount
  unique : keyImport.report.uniqueCount = keyImport.credentials.length
  duplicateOccurrences : keyImport.report.duplicateOccurrenceCount =
    keyImport.report.duplicateFingerprints.length
  credentials : keyImport.credentials =
    (takenLines credentialSetId excludedSecrets tables secrets).map (importedFrom batchId)
  distinct : (keyImport.credentials.map (·.secret)).Nodup
  fresh : ∀ credential ∈ keyImport.credentials,
    credential.secret ∉ storedSecrets tables.credentials credentialSetId ∧
      credential.secret ∉ excludedSecrets
  /-- The rows of before, which may have been seen again, and one for each credential. -/
  rows : ∃ old, List.Forall₂
      (fun row row' => row' = { row with lastSeenAtUnixSeconds := row'.lastSeenAtUnixSeconds })
      tables.credentials old ∧
    tables'.credentials = old ++ newRows persistentFingerprint credentialSetId batchId clock
      (nextCredentialPosition tables.credentials credentialSetId)
      (takenLines credentialSetId excludedSecrets tables secrets)
  duplicates : ∀ duplicate ∈ keyImport.report.duplicateFingerprints,
    (1 ≤ duplicate.duplicateSourceLine ∧ duplicate.duplicateSourceLine ≤ secrets.length) ∧
      ∀ credential ∈ keyImport.credentials,
        credential.source.sourceLine ≠ some duplicate.duplicateSourceLine

variable {persistentFingerprint credentialSetId batchId excludedSecrets clock}

/-- What the transaction makes of the loop's result. -/
theorem appendTransaction_ok {tables tables' : CredentialTables} {secrets : List String}
    {keyImport : KeyImport}
    (h : appendTransaction persistentFingerprint credentialSetId batchId excludedSecrets clock
      tables secrets = .ok (tables', keyImport)) :
    ∃ s, appendSecrets persistentFingerprint credentialSetId batchId excludedSecrets clock
        ⟨tables.credentials, ∅, [], [], 0, 0,
          nextCredentialPosition tables.credentials credentialSetId⟩ secrets.zipIdx = .ok s ∧
      tables'.credentials = s.rows ∧ keyImport.credentials = s.credentials ∧
      keyImport.report.physicalLineCount = s.nonEmptyCount + s.ignoredEmptyCount ∧
      keyImport.report.nonEmptyCount = s.nonEmptyCount ∧
      keyImport.report.uniqueCount = s.credentials.length ∧
      keyImport.report.duplicateOccurrenceCount = s.duplicateFingerprints.length ∧
      keyImport.report.ignoredEmptyCount = s.ignoredEmptyCount ∧
      keyImport.report.duplicateFingerprints = s.duplicateFingerprints := by
  obtain ⟨-, -, h⟩ := bind_eq_ok.mp h
  obtain ⟨s, hloop, h⟩ := bind_eq_ok.mp h
  obtain ⟨setReport, -, h⟩ := bind_eq_ok.mp h
  cases h
  exact ⟨s, hloop, rfl, rfl, rfl, rfl, rfl, rfl, rfl, rfl⟩

/-- The loop starts with the stored and the excluded secrets. -/
theorem known_start (rows : List CredentialRow) (position : Nat) (secret : String) :
    AppendLoop.Known credentialSetId excludedSecrets ⟨rows, ∅, [], [], 0, 0, position⟩ secret ↔
      secret ∈ storedSecrets rows credentialSetId ++ excludedSecrets := by
  rw [List.mem_append]
  exact or_iff_right Finmap.notMem_empty

theorem map_snd_nonBlank_sublist (secrets : List String) :
    ((nonBlank secrets.zipIdx).map Prod.snd).Sublist (List.range secrets.length) := by
  have hsub : (nonBlank secrets.zipIdx).Sublist secrets.zipIdx := List.filter_sublist
  have hmap := hsub.map Prod.snd
  rw [List.zipIdx_map_snd, ← List.range_eq_range'] at hmap
  exact hmap

theorem importAccounted_of_ok {tables tables' : CredentialTables} {secrets : List String}
    {keyImport : KeyImport}
    (h : appendTransaction persistentFingerprint credentialSetId batchId excludedSecrets clock
      tables secrets = .ok (tables', keyImport)) :
    ImportAccounted persistentFingerprint credentialSetId batchId excludedSecrets clock tables
      tables' secrets keyImport := by
  obtain ⟨s, hloop, hrows, hcredentials, hphysical, hnonEmpty, hunique, hduplicates, hignored,
    hfingerprints⟩ := appendTransaction_ok h
  have hrun := appendSecrets_spec (known_start tables.credentials _) hloop
  have htaken : keyImport.credentials =
      (takenLines credentialSetId excludedSecrets tables secrets).map (importedFrom batchId) :=
    hcredentials.trans (hrun.credentials.trans (List.nil_append _))
  have hlines : keyImport.report.duplicateFingerprints.map (·.duplicateSourceLine) =
      (repeats secretOf (storedSecrets tables.credentials credentialSetId ++ excludedSecrets)
        (nonBlank secrets.zipIdx)).map fun line => line.2 + 1 := by
    rw [hfingerprints]
    exact hrun.duplicates.trans (List.nil_append _)
  have hsub := map_snd_nonBlank_sublist secrets
  refine ⟨?_, ?_, ?_, ?_, htaken, ?_, ?_, ?_, ?_⟩
  · have hcount : s.nonEmptyCount + s.ignoredEmptyCount = 0 + 0 + secrets.zipIdx.length :=
      hrun.physicalLineCount
    rw [List.length_zipIdx] at hcount
    omega
  · have hcount : s.nonEmptyCount = 0 + (nonBlank secrets.zipIdx).length := hrun.nonEmptyCount
    -- the taken lines and the duplicates are all lines that are not blank
    have hsplit := length_firsts_add_repeats secretOf
      (storedSecrets tables.credentials credentialSetId ++ excludedSecrets)
      (nonBlank secrets.zipIdx)
    have hfirsts := congrArg List.length htaken
    have hrepeats := congrArg List.length hlines
    unfold takenLines at hfirsts
    rw [List.length_map] at hfirsts
    rw [List.length_map, List.length_map, hfingerprints] at hrepeats
    rw [hcredentials] at hfirsts
    omega
  · rw [hunique, hcredentials]
  · rw [hduplicates, hfingerprints]
  · rw [htaken, List.map_map]
    exact nodup_map_firsts secretOf _ _
  · intro credential hcredential
    rw [htaken] at hcredential
    obtain ⟨line, hline, rfl⟩ := List.mem_map.mp hcredential
    have hnew := notMem_seen_of_mem_firsts hline
    rw [List.mem_append, not_or] at hnew
    exact hnew
  · obtain ⟨old, hold, heq⟩ := hrun.rows
    exact ⟨old, hold.imp fun row row' hrow => hrow.1, hrows.trans heq⟩
  · intro duplicate hduplicate
    have hmem := List.mem_map_of_mem (f := (·.duplicateSourceLine)) hduplicate
    rw [hlines] at hmem
    obtain ⟨line, hline, hsource⟩ := List.mem_map.mp hmem
    have hlt : line.2 < secrets.length := by
      have hperm := firsts_append_repeats_perm secretOf
        (storedSecrets tables.credentials credentialSetId ++ excludedSecrets)
        (nonBlank secrets.zipIdx)
      have hnonBlank := hperm.subset (List.mem_append_right _ hline)
      exact List.mem_range.mp (hsub.subset (List.mem_map_of_mem hnonBlank))
    refine ⟨by omega, ?_⟩
    intro credential hcredential heq
    rw [htaken] at hcredential
    obtain ⟨first, hfirst, rfl⟩ := List.mem_map.mp hcredential
    -- no line of the batch is on both sides
    have hne := firsts_map_ne_repeats (hsub.nodup List.nodup_range) hfirst hline
    have hsame : first.2 + 1 = duplicate.duplicateSourceLine := Option.some.inj heq
    omega

/-- An import fails and leaves the tables alone, or it accounts for every line.  Into an
empty set, without exclusions, it takes the lines that the import of a file takes. -/
theorem append_accounts_for_every_line (persistentFingerprint : String → String)
    (credentialSetId : CredentialSetId) (batchId : String) (excludedSecrets : List String)
    (clock : Nat → Int) (tables : CredentialTables) (secrets : List String)
    (fault : Option String) :
    (match appendCredentialsExcludingSecrets persistentFingerprint credentialSetId batchId
        excludedSecrets clock tables secrets fault with
      | (tables', .error _) => tables' = tables
      | (tables', .ok keyImport) => ImportAccounted persistentFingerprint credentialSetId batchId
          excludedSecrets clock tables tables' secrets keyImport) ∧
    ∀ raw origin now tables' keyImport, secrets = strLines raw →
      (∀ row ∈ tables.credentials, row.credentialSetId ≠ credentialSetId) →
      excludedSecrets = [] →
      appendCredentialsExcludingSecrets persistentFingerprint credentialSetId batchId
        excludedSecrets clock tables secrets fault = (tables', .ok keyImport) →
      acceptedLines (.ok keyImport) = acceptedLines (importRawCredentials raw origin now) := by
  have haccounted : match appendCredentialsExcludingSecrets persistentFingerprint credentialSetId
      batchId excludedSecrets clock tables secrets fault with
      | (tables', .error _) => tables' = tables
      | (tables', .ok keyImport) => ImportAccounted persistentFingerprint credentialSetId batchId
          excludedSecrets clock tables tables' secrets keyImport := by
    unfold appendCredentialsExcludingSecrets
    cases fault with
    | some message => rfl
    | none =>
        dsimp only
        cases hrun : appendTransaction persistentFingerprint credentialSetId batchId
          excludedSecrets clock tables secrets with
        | error message => rfl
        | ok result => exact importAccounted_of_ok hrun
  refine ⟨haccounted, ?_⟩
  intro raw origin now tables' keyImport hsecrets hempty hexcluded hok
  rw [hok] at haccounted
  -- nothing is stored and nothing excluded: the lines are those of a raw import
  have hstored : storedSecrets tables.credentials credentialSetId = [] := by
    rw [List.eq_nil_iff_forall_not_mem]
    intro secret hmem
    obtain ⟨row, hrow, hset, -⟩ := mem_storedSecrets.mp hmem
    exact hempty row hrow hset
  rw [acceptedLines_importRawCredentials, ← hsecrets]
  show keyImport.credentials.map _ = _
  rw [haccounted.credentials, List.map_map]
  unfold takenLines
  rw [hstored, hexcluded]
  rfl

end Account

/-- The digests of the two secrets below. -/
def digestOfSecret (secret : String) : String :=
  if secret = "a" then "ca978112ca1bbdcafac231b39a23dc4da786eff8147c4e72b9807785afee48bb"
  else "3e23e8160039594a33894f6564e1b1348bbd7a0088d42c4acb73eeaed59c009d"

/-- Four lines, one of them blank and one a duplicate, into an empty set. -/
theorem append_accounts_for_four_lines :
    let tables : CredentialTables :=
      ⟨Finmap.singleton "set" ⟨"keys.txt", 0, 0, 0, 0, 0, 0, none, none, 1, 0⟩, [], []⟩
    let result := appendCredentialsExcludingSecrets digestOfSecret "set" "batch" [] (fun _ => 0) tables
      (strLines "a\n\n b \na\n") none
    acceptedLines result.2 = [("a", some 1), ("b", some 3)] ∧
      acceptedLines result.2 =
        acceptedLines (importRawCredentials "a\n\n b \na\n" ⟨"set", "keys.txt", none, none⟩ 0) := by
  intro tables result
  have haccepted : acceptedLines result.2 = [("a", some 1), ("b", some 3)] := by decide +kernel
  refine ⟨haccepted, ?_⟩
  cases hresult : result.2 with
  | error message =>
      rw [hresult] at haccepted
      cases haccepted
  | ok keyImport =>
      exact (append_accounts_for_every_line digestOfSecret "set" "batch" [] (fun _ => 0) tables
        (strLines "a\n\n b \na\n") none).2 _ _ _ result.1 keyImport rfl nofun rfl
        (Prod.ext rfl hresult)

end OneAiKey

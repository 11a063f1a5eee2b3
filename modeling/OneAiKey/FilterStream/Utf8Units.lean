/-
  OneAiKey.FilterStream.Utf8Units — which bodies are inspected as a whole.

  A unit that is not UTF-8 goes past the filter.  An event boundary is behind a
  line feed and never inside a character; a length-based release cuts at a byte
  count and may be:

      every unit of a UTF-8 body is UTF-8
        ↔  every release of the body is at a position where a character begins

  (`units_utf8_iff`; `release_splits_character` is a body with a cut inside a
  character.)  Where the releases are depends on the body and the lengths of its
  chunks (`bodyCuts`).
-/
import OneAiKey.FilterStream.Cuts

namespace OneAiKey

/-! ## §1. Cuts and character boundaries. -/

/-- The byte behind the cut begins a character. -/
def FilterUnit.AtCharBoundary (unit : FilterUnit) : Prop :=
  ∀ b ∈ unit.pending[unit.size]?, b.IsUTF8FirstByte

instance (unit : FilterUnit) : Decidable unit.AtCharBoundary :=
  inferInstanceAs (Decidable (∀ b ∈ unit.pending[unit.size]?, b.IsUTF8FirstByte))

/-- A character of the body begins at the position, or the body has ended. -/
def BeginsCharacter (body : Bytes) (position : Nat) : Prop :=
  ∀ b ∈ body[position]?, b.IsUTF8FirstByte

instance (body : Bytes) (position : Nat) : Decidable (BeginsCharacter body position) :=
  inferInstanceAs (Decidable (∀ b ∈ body[position]?, b.IsUTF8FirstByte))

/-- At a release, the byte of the body behind the cut is the one of the pending bytes. -/
theorem CutAt.atCharBoundary_iff {body : Bytes} {unit : FilterUnit} {cut : BodyCut}
    (h : CutAt body unit cut) (hkind : cut.kind = .release) :
    unit.AtCharBoundary ↔ BeginsCharacter body cut.stop := by
  unfold FilterUnit.AtCharBoundary BeginsCharacter
  rw [h.behind hkind]

section Cuts

variable {pending unread : Bytes} {kind : CutKind} {size : Nat}

/-- A cut in front of a character leaves texts on both sides. -/
theorem valid_of_atCharBoundary (hvalid : Utf8.Valid (pending ++ unread))
    (hle : size < pending.length)
    (h : (⟨kind, pending, size⟩ : FilterUnit).AtCharBoundary) :
    Utf8.Valid (pending.take size) ∧ Utf8.Valid (pending.drop size ++ unread) := by
  have hfirst := h pending[size] (List.getElem?_eq_getElem hle)
  rw [← List.take_append_drop size pending, List.drop_eq_getElem_cons hle, List.append_assoc]
    at hvalid
  rw [List.drop_eq_getElem_cons hle]
  exact Utf8.valid_of_boundary hvalid hfirst

/-- A unit that is a text is cut off in front of a character. -/
theorem atCharBoundary_of_valid (hvalid : Utf8.Valid (pending ++ unread))
    (hle : size < pending.length) (hunit : Utf8.Valid (pending.take size)) :
    (⟨kind, pending, size⟩ : FilterUnit).AtCharBoundary := by
  have hsplit : pending ++ unread = pending.take size ++ (pending.drop size ++ unread) := by
    rw [← List.append_assoc, List.take_append_drop]
  rw [hsplit] at hvalid
  have hright := Utf8.valid_right hvalid hunit
  rw [List.drop_eq_getElem_cons hle] at hright
  intro b hb
  rw [List.getElem?_eq_getElem hle, Option.mem_some_iff] at hb
  rw [← hb]
  exact Utf8.boundary_of_valid hright

/-- What a cut leaves of a text is a text when the unit is one. -/
theorem valid_behind_cut (hvalid : Utf8.Valid (pending ++ unread))
    (hunit : Utf8.Valid (pending.take size)) : Utf8.Valid (pending.drop size ++ unread) := by
  have hsplit : pending ++ unread = pending.take size ++ (pending.drop size ++ unread) := by
    rw [← List.append_assoc, List.take_append_drop]
  rw [hsplit] at hvalid
  exact Utf8.valid_right hvalid hunit

theorem size_lt_of_release (h : CutSpec pending .release size) : size < pending.length := by
  cases h with
  | release hlong =>
      unfold maxFilterPendingBytes at hlong
      unfold filterOverlapBytes
      omega

/-- A unit of a text is a text exactly if no release cuts inside a character. -/
theorem unit_valid_iff (hspec : CutSpec pending kind size)
    (hlast : kind = .remaining → unread = []) (hvalid : Utf8.Valid (pending ++ unread)) :
    Utf8.Valid (pending.take size) ↔
      (kind = .release → (⟨kind, pending, size⟩ : FilterUnit).AtCharBoundary) := by
  constructor
  · intro hunit hrelease
    subst hrelease
    exact atCharBoundary_of_valid hvalid (size_lt_of_release hspec) hunit
  · intro hboundary
    cases hspec with
    | @event before _ hle htake =>
        -- the unit ends with a line feed
        rw [← List.take_append_drop size pending, htake, List.append_assoc (before ++ [lf])]
          at hvalid
        rw [htake]
        exact (Utf8.valid_of_ascii_end (by decide) hvalid).1
    | release hlong =>
        exact (valid_of_atCharBoundary hvalid (size_lt_of_release (.release hlong))
          (hboundary rfl)).1
    | remaining hne =>
        rw [hlast rfl, List.append_nil] at hvalid
        rw [List.take_length]
        exact hvalid

end Cuts

/-! ## §2. Whole bodies. -/

section Bodies

/-- By induction over the turns: as long as the units are texts, what is unread is one. -/
theorem units_valid_iff (filter : StreamFilter) (state : FilterStreamState) :
    Utf8.Valid state.unread →
      ((∀ unit ∈ unitsOf (filterFrom filter state), Utf8.Valid unit.bytes) ↔
        ∀ unit ∈ unitsOf (filterFrom filter state),
          unit.kind = .release → unit.AtCharBoundary) := by
  -- a unit ends at a boundary of its kind; only a release may cut a character
  have hunit (state : FilterStreamState) {kind : CutKind} {size : Nat}
      (hspec : CutSpec state.pending kind size)
      (hvalid : Utf8.Valid state.unread) (hlast : kind = .remaining → state.finished = true) :
      Utf8.Valid (state.pending.take size) ↔
        (kind = .release → (⟨kind, state.pending, size⟩ : FilterUnit).AtCharBoundary) := by
    refine unit_valid_iff hspec ?_ hvalid
    intro hkind
    rw [hlast hkind]
    rfl
  refine filterFrom_induction
    (motive := fun state items => Utf8.Valid state.unread →
      ((∀ unit ∈ unitsOf items, Utf8.Valid unit.bytes) ↔
        ∀ unit ∈ unitsOf items, unit.kind = .release → unit.AtCharBoundary)) ?_ ?_ ?_ ?_ ?_
  · intro state kind size out hspec hlast ih _ hvalid
    have hhead := hunit state hspec hvalid hlast
    rw [unitsOf_cons_filtered, List.forall_mem_cons, List.forall_mem_cons]
    constructor
    · intro h
      exact ⟨hhead.mp h.1, (ih (valid_behind_cut hvalid h.1)).mp h.2⟩
    · intro h
      have hbytes := hhead.mpr h.1
      exact ⟨hbytes, (ih (valid_behind_cut hvalid hbytes)).mpr h.2⟩
  · intro state kind size fault hspec hlast _ hvalid
    have hhead := hunit state hspec hvalid hlast
    constructor
    · intro h
      exact List.forall_mem_singleton.mpr (hhead.mp (h _ List.mem_cons_self))
    · intro h
      exact List.forall_mem_singleton.mpr (hhead.mpr (h _ List.mem_cons_self))
  · intro state state' err items hunread ih hvalid
    exact ih (hunread ▸ hvalid)
  · intro state state' items hunread ih hvalid
    exact ih (hunread ▸ hvalid)
  · intro state _ _
    exact ⟨fun _ => nofun, fun _ => nofun⟩

/-- What holds of all releases among the units holds of those among the cuts. -/
theorem releases_atCharBoundary_iff {body : Bytes} {units : List FilterUnit}
    {cuts : List BodyCut} (h : List.Forall₂ (CutAt body) units cuts) :
    (∀ unit ∈ units, unit.kind = .release → unit.AtCharBoundary) ↔
      ∀ cut ∈ cuts, cut.kind = .release → BeginsCharacter body cut.stop := by
  induction h with
  | nil => exact ⟨fun _ _ => nofun, fun _ _ => nofun⟩
  | cons hcut _ ih =>
      rw [List.forall_mem_cons, List.forall_mem_cons, ih, hcut.kind]
      exact and_congr_left fun _ => forall_congr' fun hkind => hcut.atCharBoundary_iff hkind

/-- **Inspection of UTF-8 bodies.**  The units are the body cut in pieces, and each of them is
read as a text, and so inspected, exactly if at every release position of the body that the
filter gets to a character begins. -/
theorem units_utf8_iff (filter : StreamFilter) (chunks : List Bytes)
    (hbody : Utf8.Valid chunks.flatten) :
    (NoFault (filterResponseStream filter (chunks.map .ok)) →
      ((unitsOf (filterResponseStream filter (chunks.map .ok))).map FilterUnit.bytes).flatten =
        chunks.flatten) ∧
    ((∀ unit ∈ unitsOf (filterResponseStream filter (chunks.map .ok)),
        Utf8.decode unit.bytes ≠ none) ↔
      ∀ cut ∈ filter.reached chunks.flatten
          (bodyCuts chunks.flatten (chunks.map List.length)),
        cut.kind = .release → BeginsCharacter chunks.flatten cut.stop) := by
  have hunread : (⟨chunks.map .ok, [], false⟩ : FilterStreamState).unread = chunks.flatten :=
    streamBytes_ok chunks
  refine ⟨fun hnoFault => (units_flatten hnoFault).trans hunread, ?_⟩
  have hiff := units_valid_iff filter ⟨chunks.map .ok, [], false⟩ (hunread ▸ hbody)
  rw [← releases_atCharBoundary_iff (units_cutAt filter chunks)]
  unfold filterResponseStream
  rw [← hiff]
  refine forall_congr' fun unit => forall_congr' fun _ => ?_
  rw [ne_eq, Utf8.decode_eq_none_iff, Classical.not_not]

/-- A filter with one rule, which redacts `ab`. -/
def abFilter : StreamFilter where
  tables := ⟨fun ch => [ch], fun _ => false, fun _ => false⟩
  policy := ⟨true, "[filtered]".toList, [⟨"ab", .redact, .literal ['a', 'b'] ['a', 'b'] true⟩]⟩
  contentKind := .json
  eventContext := none

/-- A character that arrives in two chunks.  The condition is about releases only, and a body
of two bytes is never released in parts, so the halves are joined before the filter sees them. -/
theorem units_utf8_iff_split_chunk :
    Utf8.Valid [[0xC3], [0xA9]].flatten ∧
      ((∀ unit ∈ unitsOf (filterResponseStream abFilter ([[0xC3], [0xA9]].map .ok)),
          Utf8.decode unit.bytes ≠ none) ↔
        ∀ cut ∈ abFilter.reached [0xC3, 0xA9] (bodyCuts [0xC3, 0xA9] [1, 1]),
          cut.kind = .release → BeginsCharacter [0xC3, 0xA9] cut.stop) := by
  have hbody : Utf8.Valid [[0xC3], [0xA9]].flatten := ⟨['é'], rfl⟩
  exact ⟨hbody, (units_utf8_iff abFilter [[0xC3], [0xA9]] hbody).2⟩

end Bodies

/-! ## §3. A release inside a character. -/

/-- A cut between the two bytes of `é` leaves no text. -/
theorem not_valid_inside_character (before : Text) :
    ¬ Utf8.Valid (Utf8.encode before ++ [0xC3]) := by
  intro hvalid
  have hwhole : Utf8.Valid (Utf8.encode before ++ [0xC3] ++ [0xA9]) := by
    refine ⟨before ++ ['é'], ?_⟩
    rw [Utf8.encode_append, List.append_assoc]
    rfl
  have hrest := Utf8.boundary_of_valid (Utf8.valid_right hwhole hvalid)
  revert hrest
  decide

/-- A body with a character of two bytes at the place of the first release. -/
def splitCharacterBody : Bytes :=
  Utf8.encode (List.replicate 7168 'a' ++ 'é' :: List.replicate 1023 'a')

/-- The released unit goes past the filter.  It ends with the first of the two bytes of a
character, so it is not UTF-8, and what is no text is passed on as it is. -/
theorem release_splits_character :
    abFilter.policy.isEffective = true ∧ Utf8.Valid splitCharacterBody ∧
      ¬ ∀ unit ∈ unitsOf (filterResponseStream abFilter [.ok splitCharacterBody]),
        Utf8.decode unit.bytes ≠ none := by
  have hencode (n : Nat) : Utf8.encode (List.replicate n 'a') = List.replicate n 97 :=
    Utf8.encode_replicate (by decide) n
  -- the two bytes of the character lie on both sides of the position 7169
  have hsplit : splitCharacterBody =
      Utf8.encode (List.replicate 7168 'a') ++ [0xC3] ++
        0xA9 :: Utf8.encode (List.replicate 1023 'a') := by
    have hchar : String.utf8EncodeChar 'é' = [0xC3, 0xA9] := by decide
    unfold splitCharacterBody
    rw [Utf8.encode_append, Utf8.encode_cons, hchar]
    simp only [List.append_assoc, List.cons_append, List.nil_append]
  have hleft : (Utf8.encode (List.replicate 7168 'a') ++ [0xC3]).length = 7169 := by
    rw [List.length_append, hencode, List.length_replicate, List.length_singleton]
  have hlength : splitCharacterBody.length = 8193 := by
    rw [hsplit, List.length_append, hleft, List.length_cons, hencode, List.length_replicate]
  have hlf : lf ∉ splitCharacterBody := by
    rw [hsplit, hencode, hencode]
    simp only [List.mem_append, List.mem_replicate, List.mem_cons, List.not_mem_nil, or_false,
      not_or, not_and]
    exact ⟨⟨fun _ => by decide, by decide⟩, by decide, fun _ => by decide⟩
  have hlong : maxFilterPendingBytes < splitCharacterBody.length := by
    rw [hlength]
    decide
  refine ⟨rfl, Utf8.valid_encode _, ?_⟩
  intro hall
  refine hall _ (release_mem_units hlong hlf) (Utf8.decode_eq_none_iff.mpr ?_)
  -- so the unit that is released ends inside the character
  have hcut : 8193 - filterOverlapBytes = 7169 := rfl
  rw [FilterUnit.bytes_mk, hlength, hcut, hsplit, List.take_left' hleft]
  exact not_valid_inside_character _

end OneAiKey

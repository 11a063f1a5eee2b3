/-
  OneAiKey.FilterStream.Leak — what a literal redaction lets through when the
  body is filtered unit by unit.

  The literal is visible text without line feeds, no longer than the bytes that
  a release keeps, and it does not overlap the replacement.  Redaction leaves
  the pieces of a unit that lie between the matches, so what is written is the
  pieces of all units joined by the replacement, and the literal is in it
  exactly if

    * a unit that is no UTF-8 contains it (such a unit is written as it is), or
    * it lies in the body across a release position, behind the last match in the
      bytes before that position and ahead of the first match in the bytes behind it.

  `redaction_leak_free_iff` is the equivalence, over the body and the lengths of its
  chunks; `release_leaks_literal` is a body whose literal lies across a release.
-/
import OneAiKey.FilterStream.Utf8Units
import OneAiKey.ResponseFilter.Redact

namespace OneAiKey

open Redaction

/-! ## §1. Pieces of units. -/

/-- What redaction leaves of some bytes: the pieces between the matches, or all of it when
they are no text. -/
def piecesOf (literal : Text) (bytes : Bytes) : List Bytes :=
  match Utf8.decode bytes with
  | none => [bytes]
  | some text => (Redaction.pieces isIgnoredFormatChar literal text).map Utf8.encode

def FilterUnit.pieces (literal : Text) (unit : FilterUnit) : List Bytes :=
  piecesOf literal unit.bytes

/-- The literal is not in a unit that is no text, nor between the last match of a released
unit and the first of the next. -/
def UnitsLeakFree (literal : Text) (units : List FilterUnit) : Prop :=
  (∀ unit ∈ units, Utf8.decode unit.bytes = none → ¬ Utf8.encode literal <:+: unit.bytes) ∧
    units.IsChain fun unit next => unit.kind = .release →
      ¬ Utf8.encode literal <:+: lastPiece (unit.pieces literal) ++ firstPiece (next.pieces literal)

theorem FilterUnit.pieces_ne_nil (literal : Text) (unit : FilterUnit) :
    unit.pieces literal ≠ [] := by
  unfold FilterUnit.pieces piecesOf
  split
  · exact List.cons_ne_nil _ _
  · rw [ne_eq, List.map_eq_nil_iff]
    exact Redaction.pieces_ne_nil _ _

/-- A single piece is the unit. -/
theorem FilterUnit.eq_of_pieces_eq_singleton {literal : Text} {unit : FilterUnit} {piece : Bytes}
    (h : unit.pieces literal = [piece]) : piece = unit.bytes := by
  unfold FilterUnit.pieces piecesOf at h
  cases hdecode : Utf8.decode unit.bytes with
  | none =>
      rw [hdecode] at h
      exact (List.singleton_inj.mp h).symm
  | some text =>
      rw [hdecode] at h
      obtain ⟨textPiece, hpieces, rfl⟩ := List.map_eq_singleton_iff.mp h
      rw [Redaction.eq_of_pieces_eq_singleton hpieces]
      exact (Utf8.decode_eq_some_iff.mp hdecode).symm

theorem FilterUnit.lastPiece_suffix (literal : Text) (unit : FilterUnit) :
    lastPiece (unit.pieces literal) <:+ unit.bytes := by
  unfold FilterUnit.pieces piecesOf
  cases hdecode : Utf8.decode unit.bytes with
  | none => exact List.suffix_rfl
  | some text =>
      rw [Utf8.decode_eq_some_iff.mp hdecode]
      obtain ⟨before, hbefore⟩ := @lastPiece_pieces_suffix _ isIgnoredFormatChar _ literal text
      refine ⟨Utf8.encode before, ?_⟩
      have hne := @Redaction.pieces_ne_nil _ isIgnoredFormatChar _ literal text
      rw [lastPiece_eq_getLast hne] at hbefore
      show _ ++ lastPiece ((Redaction.pieces isIgnoredFormatChar literal text).map Utf8.encode) = _
      rw [lastPiece_eq_getLast (mt List.map_eq_nil_iff.mp hne), List.getLast_map,
        ← Utf8.encode_append, hbefore]

section Literal

variable {tables : CaseTables} {filter : StreamFilter} {literal : Text}

/-- No piece of a text contains the literal. -/
theorem FilterUnit.not_infix_piece (hne : literal ≠ [])
    (hvisible : ∀ ch ∈ literal, isIgnoredFormatChar ch = false) {unit : FilterUnit} {text : Text}
    (htext : Utf8.decode unit.bytes = some text) :
    ∀ piece ∈ unit.pieces literal, ¬ Utf8.encode literal <:+: piece := by
  unfold FilterUnit.pieces piecesOf
  rw [htext]
  intro piece hpiece
  obtain ⟨textPiece, hmem, rfl⟩ := List.mem_map.mp hpiece
  rw [Utf8.infix_encode_iff]
  exact not_infix_of_mem_pieces hne hvisible text textPiece hmem

/-- The pieces are free of the literal exactly if the units that are no text are. -/
theorem pieces_free_iff (hne : literal ≠ [])
    (hvisible : ∀ ch ∈ literal, isIgnoredFormatChar ch = false) (units : List FilterUnit) :
    (∀ unit ∈ units, ∀ piece ∈ unit.pieces literal, ¬ Utf8.encode literal <:+: piece) ↔
      ∀ unit ∈ units, Utf8.decode unit.bytes = none → ¬ Utf8.encode literal <:+: unit.bytes := by
  refine forall_congr' fun unit => forall_congr' fun _ => ?_
  cases hdecode : Utf8.decode unit.bytes with
  | none =>
      have hpieces : unit.pieces literal = [unit.bytes] := by
        unfold FilterUnit.pieces piecesOf
        rw [hdecode]
      rw [hpieces, List.forall_mem_singleton]
      exact ⟨fun h _ => h, fun h => h rfl⟩
  | some text =>
      have hfree := FilterUnit.not_infix_piece hne hvisible hdecode
      exact ⟨fun _ => nofun, fun _ => hfree⟩

/-! ## §2. What is written. -/

/-- A filter with one such rule writes the pieces of a unit, joined by the replacement. -/
theorem filterResponseBytes_single_literal (hpolicy : filter.policy.SingleLiteral filter.tables literal)
    (hne : literal ≠ []) (hvisible : ∀ ch ∈ literal, isIgnoredFormatChar ch = false)
    (unit : FilterUnit) :
    ∃ out, filter.filterResponseBytes unit.bytes = .ok out ∧
      out.bytes = (Utf8.encode filter.policy.replacement).intercalate (unit.pieces literal) := by
  have hself := visible_eq_self hvisible
  unfold StreamFilter.filterResponseBytes FilterUnit.pieces piecesOf
  cases hdecode : Utf8.decode unit.bytes with
  | none => exact ⟨_, rfl, List.intercalate_singleton.symm⟩
  | some text =>
      have hinspect := inspectText_single_literal hpolicy (hself.symm ▸ hne) text
      rw [hself] at hinspect
      dsimp only
      rcases hinspect with ⟨-, matched, hredacted⟩ | ⟨hpieces, hunchanged⟩
      · rw [hredacted]
        exact ⟨_, rfl, Utf8.encode_intercalate _ _⟩
      · rw [hunchanged, hpieces]
        refine ⟨_, rfl, ?_⟩
        rw [List.map_singleton, List.intercalate_singleton]
        exact Utf8.decode_eq_some_iff.mp hdecode

/-- It fails on no bytes. -/
theorem filterResponseBytes_ok (filter : StreamFilter)
    (hpolicy : filter.policy.SingleLiteral filter.tables literal) (hne : literal ≠ [])
    (hvisible : ∀ ch ∈ literal, isIgnoredFormatChar ch = false) (bytes : Bytes) :
    ∃ out, filter.filterResponseBytes bytes = .ok out := by
  obtain ⟨out, hout, -⟩ := filterResponseBytes_single_literal hpolicy hne hvisible
    ⟨.remaining, bytes, bytes.length⟩
  rw [FilterUnit.bytes_mk, List.take_length] at hout
  exact ⟨out, hout⟩

/-- By induction over the turns: no unit fails, and the pieces of all of them are written. -/
theorem writtenBytes_single_literal (filter : StreamFilter) (state : FilterStreamState)
    (hpolicy : filter.policy.SingleLiteral filter.tables literal)
    (hne : literal ≠ []) (hvisible : ∀ ch ∈ literal, isIgnoredFormatChar ch = false) :
    NoFault (filterFrom filter state) ∧
      writtenBytes (filterFrom filter state) = written (Utf8.encode filter.policy.replacement)
        ((unitsOf (filterFrom filter state)).map (FilterUnit.pieces literal)) := by
  have hunit := filterResponseBytes_single_literal hpolicy hne hvisible
  -- one unit more, a fault, an error of the body, a poll, and the end
  refine filterFrom_induction
    (motive := fun _ items => NoFault items ∧
      writtenBytes items = written (Utf8.encode filter.policy.replacement)
        ((unitsOf items).map (FilterUnit.pieces literal))) ?_ ?_ ?_ ?_ ?_
  · intro state kind size out _ _ ih hout
    obtain ⟨hnoFault, hwritten⟩ := ih
    constructor
    · intro unit fault hmem
      rcases List.mem_cons.mp hmem with hhead | hmem
      · cases hhead
      · exact hnoFault unit fault hmem
    · obtain ⟨out', hout', hbytes⟩ := hunit ⟨kind, state.pending, size⟩
      rw [FilterUnit.bytes_mk, hout] at hout'
      obtain rfl := Except.ok.inj hout'
      rw [unitsOf_cons_filtered, List.map_cons, written_cons, ← hbytes, ← hwritten]
      rfl
  · -- the filter of a single literal has no fault
    intro state kind size fault _ _ hout
    obtain ⟨out', hout', -⟩ := hunit ⟨kind, state.pending, size⟩
    rw [FilterUnit.bytes_mk, hout] at hout'
    cases hout'
  · intro state state' err items _ ih
    refine ⟨?_, ih.2⟩
    intro unit fault hmem
    rcases List.mem_cons.mp hmem with hhead | hmem
    · cases hhead
    · exact ih.1 unit fault hmem
  · intro state state' items _ ih
    exact ih
  · intro state _
    exact ⟨fun _ _ => nofun, rfl⟩

/-! ## §3. The literal in what is written. -/

/-- Texts that do not overlap have bytes that do not. -/
theorem noOverlap_encode {text text' : Text} (h : NoOverlap text text') :
    NoOverlap (Utf8.encode text) (Utf8.encode text') where
  outside := mt Utf8.infix_encode_iff.mp h.outside
  inside := mt Utf8.infix_encode_iff.mp h.inside
  behind := by
    intro part hpart hstart hsuffix
    obtain ⟨shared, hshared, -, hstart', hsuffix'⟩ :=
      Utf8.exists_encode_of_prefix_suffix hpart hstart hsuffix
    exact h.behind shared hshared hstart' hsuffix'
  before := by
    intro part hpart hsuffix hstart
    obtain ⟨shared, hshared, -, hstart', hsuffix'⟩ :=
      Utf8.exists_encode_of_prefix_suffix hpart hstart hsuffix
    exact h.before shared hshared hsuffix' hstart'

/-- A literal without line feeds has none in its bytes. -/
theorem lf_not_mem_encode (hnewline : '\n' ∉ literal) : lf ∉ Utf8.encode literal := by
  intro hmem
  apply hnewline
  have hinside : Utf8.encode ['\n'] <:+: Utf8.encode literal := by
    obtain ⟨left, right, h⟩ := List.append_of_mem hmem
    exact ⟨left, right, by rw [h, List.append_assoc]; rfl⟩
  exact (Utf8.infix_encode_iff.mp hinside).subset List.mem_cons_self

/-- A unit that is followed by another one is not inside the literal. -/
theorem unit_not_infix_literal (hnewline : '\n' ∉ literal)
    (hlength : byteLen literal ≤ filterOverlapBytes) {unit : FilterUnit}
    (hspec : CutSpec unit.pending unit.kind unit.size) (hkind : unit.kind ≠ .remaining) :
    ¬ unit.bytes <:+: Utf8.encode literal := by
  obtain ⟨kind, pending, size⟩ := unit
  dsimp only at hspec hkind
  rw [FilterUnit.bytes_mk]
  intro hinside
  cases hspec with
  | event _ htake =>
      rw [htake] at hinside
      exact lf_not_mem_encode hnewline (hinside.subset (List.mem_append_right _ List.mem_cons_self))
  | release hlong =>
      have hle := hinside.length_le
      unfold maxFilterPendingBytes at hlong
      unfold filterOverlapBytes at hle hlength
      rw [List.length_take, length_encode] at hle
      omega
  | remaining _ => exact hkind rfl

/-- The literal does not lie across the end of an event. -/
theorem event_not_crossed (hnewline : '\n' ∉ literal) {unit next : FilterUnit}
    (hspec : CutSpec unit.pending unit.kind unit.size) (hkind : unit.kind = .event)
    (hlast : ¬ Utf8.encode literal <:+: lastPiece (unit.pieces literal))
    (hfirst : ¬ Utf8.encode literal <:+: firstPiece (next.pieces literal)) :
    ¬ Utf8.encode literal <:+:
      lastPiece (unit.pieces literal) ++ firstPiece (next.pieces literal) := by
  intro hinside
  -- the literal lies on one side, or across the cut
  rcases List.infix_append_iff_ne_nil.mp hinside with hin | hin | ⟨v, w, hv, -, hvw, hsuffix, -⟩
  · exact hlast hin
  · exact hfirst hin
  · -- the part before the cut ends with the line feed of the event
    obtain ⟨before, hbefore⟩ := hsuffix.trans (unit.lastPiece_suffix literal)
    obtain ⟨kind, pending, size⟩ := unit
    dsimp only at hspec hkind
    subst hkind
    cases hspec with
    | @event left _ _ htake =>
        obtain ⟨init, b, rfl⟩ : ∃ init b, v = init ++ [b] :=
          ⟨_, _, (List.dropLast_append_getLast hv).symm⟩
        rw [FilterUnit.bytes_mk, htake, ← List.append_assoc] at hbefore
        obtain ⟨-, hlf⟩ := List.append_inj' hbefore rfl
        obtain rfl := List.singleton_inj.mp hlf
        apply lf_not_mem_encode hnewline
        rw [hvw]
        simp

/-- What a stream with one such rule writes is free of the literal exactly if nothing leaks. -/
theorem not_infix_writtenBytes_iff (filter : StreamFilter) (state : FilterStreamState)
    (hpolicy : filter.policy.SingleLiteral filter.tables literal)
    (hne : literal ≠ []) (hvisible : ∀ ch ∈ literal, isIgnoredFormatChar ch = false)
    (hnewline : '\n' ∉ literal) (hlength : byteLen literal ≤ filterOverlapBytes)
    (hoverlap : NoOverlap literal filter.policy.replacement) :
    ¬ Utf8.encode literal <:+: writtenBytes (filterFrom filter state) ↔
      UnitsLeakFree literal (unitsOf (filterFrom filter state)) := by
  have hspecs := units_cutSpec filter state
  have hkinds := units_chain filter state
  rw [(writtenBytes_single_literal filter state hpolicy hne hvisible).2]
  generalize unitsOf (filterFrom filter state) = units at *
  rw [List.isChain_iff_forall_rel_of_append_cons_cons] at hkinds
  have hpattern : Utf8.encode literal ≠ [] := mt Utf8.encode_eq_nil_iff.mp hne
  -- every unit has a piece, and a unit of one piece is no part of the literal
  have hpieces : ∀ unit ∈ units.map (FilterUnit.pieces literal), unit ≠ [] := by
    intro unit hunit
    obtain ⟨unit', -, rfl⟩ := List.mem_map.mp hunit
    exact unit'.pieces_ne_nil literal
  have hlong : (units.map (FilterUnit.pieces literal)).IsChain
      fun unit _ => ∀ piece, unit = [piece] → ¬ piece <:+: Utf8.encode literal := by
    rw [List.isChain_map, List.isChain_iff_forall_rel_of_append_cons_cons]
    intro unit next before behind hunits piece hpiece
    rw [FilterUnit.eq_of_pieces_eq_singleton hpiece]
    exact unit_not_infix_literal hnewline hlength (hspecs unit (by rw [hunits]; simp))
      (hkinds hunits)
  rw [not_infix_written_iff hpattern (noOverlap_encode hoverlap) hpieces hlong, List.forall_mem_map,
    List.isChain_map, pieces_free_iff hne hvisible]
  unfold UnitsLeakFree
  refine and_congr_right fun hfree => ?_
  rw [← pieces_free_iff hne hvisible] at hfree
  rw [List.isChain_iff_forall_rel_of_append_cons_cons,
    List.isChain_iff_forall_rel_of_append_cons_cons]
  constructor
  · intro h unit next before behind hunits _
    exact h hunits
  · intro h unit next before behind hunits
    have hunit : unit ∈ units := by rw [hunits]; simp
    have hnext : next ∈ units := by rw [hunits]; simp
    -- only behind a release may the literal go on in the next unit
    cases hkind : unit.kind with
    | release => exact h hunits hkind
    | remaining => exact absurd hkind (hkinds hunits)
    | event =>
        exact event_not_crossed hnewline (hspecs unit hunit) hkind
          (hfree unit hunit _ (lastPiece_mem (unit.pieces_ne_nil literal)))
          (hfree next hnext _ (firstPiece_mem (next.pieces_ne_nil literal)))

end Literal

/-! ## §4. The literal in the body. -/

/-- The position in the body behind the last match among the bytes of a cut, or where these
begin. -/
def lastMatchEnd (literal : Text) (body : Bytes) (cut : BodyCut) : Nat :=
  cut.stop - (lastPiece (piecesOf literal (cut.bytes body))).length

/-- The position of the first match among the bytes of a cut, or where these end. -/
def firstMatchStart (literal : Text) (body : Bytes) (cut : BodyCut) : Nat :=
  cut.start + (firstPiece (piecesOf literal (cut.bytes body))).length

/-- The body has the literal between the last match of a cut and the first of the next. -/
def OccursAcross (literal : Text) (body : Bytes) (cut next : BodyCut) : Prop :=
  ∃ i, lastMatchEnd literal body cut ≤ i ∧
    i + (Utf8.encode literal).length ≤ firstMatchStart literal body next ∧
    Utf8.encode literal <+: body.drop i

/-- The literal gets past the filter neither in bytes between two cuts that are no text nor
across a release position. -/
def NoLeak (literal : Text) (body : Bytes) (cuts : List BodyCut) : Prop :=
  (∀ cut ∈ cuts, Utf8.decode (cut.bytes body) = none →
      ¬ Utf8.encode literal <:+: cut.bytes body) ∧
    cuts.IsChain fun cut next => cut.kind = .release → ¬ OccursAcross literal body cut next

section Positions

variable {literal : Text} {body : Bytes} {cut next : BodyCut}

theorem lastPiece_piecesOf_suffix (literal : Text) (bytes : Bytes) :
    lastPiece (piecesOf literal bytes) <:+ bytes := by
  have h := FilterUnit.lastPiece_suffix literal ⟨.remaining, bytes, bytes.length⟩
  rw [FilterUnit.bytes_mk, List.take_length] at h
  unfold FilterUnit.pieces at h
  rw [FilterUnit.bytes_mk, List.take_length] at h
  exact h

theorem firstPiece_piecesOf_prefix (literal : Text) (bytes : Bytes) :
    firstPiece (piecesOf literal bytes) <+: bytes := by
  unfold piecesOf
  cases hdecode : Utf8.decode bytes with
  | none => exact List.prefix_rfl
  | some text =>
      rw [Utf8.decode_eq_some_iff.mp hdecode]
      have hpiece : firstPiece (Redaction.pieces isIgnoredFormatChar literal text) <+: text :=
        firstPiece_pieces_prefix literal text
      obtain ⟨behind, hbehind⟩ := hpiece
      obtain ⟨piece, pieces, hpieces⟩ := List.exists_cons_of_ne_nil
        (@Redaction.pieces_ne_nil _ isIgnoredFormatChar _ literal text)
      rw [hpieces] at hbehind
      refine ⟨Utf8.encode behind, ?_⟩
      show firstPiece ((Redaction.pieces isIgnoredFormatChar literal text).map Utf8.encode) ++ _ = _
      rw [hpieces, ← hbehind, Utf8.encode_append]
      rfl

/-- What is left of two cuts that meet, put together, is a slice of the body. -/
theorem lastPiece_append_firstPiece (hmeet : next.start = cut.stop) (hcut : cut.start ≤ cut.stop)
    (hbody : cut.stop ≤ body.length) (hnext : next.start ≤ next.stop) :
    lastPiece (piecesOf literal (cut.bytes body)) ++
        firstPiece (piecesOf literal (next.bytes body)) =
      bodySlice body (lastMatchEnd literal body cut) (firstMatchStart literal body next) := by
  have hsuffix := lastPiece_piecesOf_suffix literal (cut.bytes body)
  have hprefix := firstPiece_piecesOf_prefix literal (next.bytes body)
  have hlengthCut : (cut.bytes body).length = cut.stop - cut.start := length_bodySlice hbody
  have hlengthNext : (next.bytes body).length ≤ next.stop - next.start := length_bodySlice_le
  have hleft := hsuffix.length_le
  have hright := hprefix.length_le
  -- both pieces are slices of the body, which meet where the cuts do
  have hlast : lastPiece (piecesOf literal (cut.bytes body)) =
      bodySlice body (lastMatchEnd literal body cut) cut.stop := by
    have hdrop := List.suffix_iff_eq_drop.mp hsuffix
    have hstart : cut.start + ((cut.bytes body).length -
        (lastPiece (piecesOf literal (cut.bytes body))).length) =
        lastMatchEnd literal body cut := by
      unfold lastMatchEnd
      omega
    rw [← hstart, ← drop_bodySlice]
    exact hdrop
  have hfirst : firstPiece (piecesOf literal (next.bytes body)) =
      bodySlice body next.start (firstMatchStart literal body next) := by
    unfold firstMatchStart
    rw [← take_bodySlice _ (show next.start + _ ≤ next.stop by omega)]
    exact List.prefix_iff_eq_take.mp hprefix
  have hle : lastMatchEnd literal body cut ≤ cut.stop := Nat.sub_le _ _
  have hge : cut.stop ≤ firstMatchStart literal body next := hmeet ▸ Nat.le_add_right _ _
  rw [hlast, hfirst, hmeet]
  exact bodySlice_append hle hge hbody

/-- By induction over the units: what leaks of them leaks of the body. -/
theorem unitsLeakFree_iff (hne : literal ≠ []) {units : List FilterUnit} {cuts : List BodyCut}
    (h : List.Forall₂ (CutAt body) units cuts) {start : Nat}
    (hadjacent : AdjacentFrom body.length start cuts) :
    UnitsLeakFree literal units ↔ NoLeak literal body cuts := by
  have hpattern : Utf8.encode literal ≠ [] := mt Utf8.encode_eq_nil_iff.mp hne
  unfold UnitsLeakFree NoLeak
  induction h generalizing start with
  | nil => simp
  | @cons unit cut units cuts hcut hrest ih =>
      obtain ⟨-, hle, hbody, hadjacent'⟩ := hadjacent
      have htail := ih hadjacent'
      rw [List.forall_mem_cons, List.forall_mem_cons, hcut.bytes]
      cases hrest with
      | nil => simp
      | @cons unit' cut' units cuts hcut' hrest =>
          obtain ⟨hmeet, hle', -, -⟩ := hadjacent'
          have hpieces : unit.kind = .release →
              (¬ Utf8.encode literal <:+: lastPiece (unit.pieces literal) ++
                firstPiece (unit'.pieces literal)) = ¬ OccursAcross literal body cut cut' := by
            intro _
            unfold FilterUnit.pieces OccursAcross
            rw [hcut.bytes, hcut'.bytes, lastPiece_append_firstPiece hmeet hle hbody hle',
              infix_bodySlice_iff hpattern]
          rw [List.isChain_cons_cons, List.isChain_cons_cons, ← hcut.kind,
            forall_congr hpieces]
          -- the first pair apart, both sides are what the induction has
          constructor
          · rintro ⟨⟨hfirst, hfree⟩, hpair, hchain⟩
            obtain ⟨hfree', hchain'⟩ := htail.mp ⟨hfree, hchain⟩
            exact ⟨⟨hfirst, hfree'⟩, hpair, hchain'⟩
          · rintro ⟨⟨hfirst, hfree⟩, hpair, hchain⟩
            obtain ⟨hfree', hchain'⟩ := htail.mpr ⟨hfree, hchain⟩
            exact ⟨⟨hfirst, hfree'⟩, hpair, hchain'⟩

end Positions

/-- **Leaks of a literal redaction.**  A policy with one case-sensitive literal to redact, over
all bodies and chunkings: no unit makes the filter fail, and what is written is free of the
literal exactly if, cut where the body and the lengths of its chunks say, the body has the
literal neither in bytes that are no text nor across a release position. -/
theorem redaction_leak_free_iff {buildRegex : String → Except String Regex} {tables : CaseTables}
    {id value replacement : String} {policy : ResponseFilterPolicy}
    (hcompile : ResponseFilterPolicy.compile buildRegex tables
      ⟨true, replacement, [⟨id, .literal value true, .redact⟩]⟩ = .ok policy)
    (hvisible : ∀ ch ∈ value.toList, isIgnoredFormatChar ch = false)
    (hnewline : '\n' ∉ value.toList) (hlength : byteLen value.toList ≤ filterOverlapBytes)
    (hoverlap : NoOverlap value.toList policy.replacement) (contentKind : ResponseContentKind)
    (eventContext : Option ResponseFilterEventContext) (chunks : List Bytes) :
    NoFault (filterResponseStream ⟨tables, policy, contentKind, eventContext⟩
        (chunks.map .ok)) ∧
      (¬ Utf8.encode value.toList <:+: writtenBytes
          (filterResponseStream ⟨tables, policy, contentKind, eventContext⟩ (chunks.map .ok)) ↔
        NoLeak value.toList chunks.flatten
          (bodyCuts chunks.flatten (chunks.map List.length))) := by
  obtain ⟨hpolicy, hne⟩ := compile_single_literal hcompile
  have hwritten := writtenBytes_single_literal ⟨tables, policy, contentKind, eventContext⟩
    ⟨chunks.map .ok, [], false⟩ hpolicy hne hvisible
  have hleak := not_infix_writtenBytes_iff ⟨tables, policy, contentKind, eventContext⟩
    ⟨chunks.map .ok, [], false⟩ hpolicy hne hvisible hnewline hlength hoverlap
  have hok := filterResponseBytes_ok ⟨tables, policy, contentKind, eventContext⟩ hpolicy hne hvisible
  have hunits := units_cutAt ⟨tables, policy, contentKind, eventContext⟩ chunks
  rw [reached_of_ok hok] at hunits
  exact ⟨hwritten.1, hleak.trans (unitsLeakFree_iff hne hunits (bodyCuts_adjacent chunks))⟩

/-- What holds of both characters of the literal. -/
private theorem forall_mem_ab {P : Char → Prop} (ha : P 'a') (hb : P 'b') :
    ∀ ch ∈ "ab".toList, P ch :=
  List.forall_mem_cons.mpr ⟨ha, List.forall_mem_singleton.mpr hb⟩

theorem abFilter_noOverlap : NoOverlap ("ab".toList) abFilter.policy.replacement :=
  NoOverlap.of_disjoint (by decide) (by decide) (forall_mem_ab (by decide) (by decide))

/-- The literal arrives in two chunks, and the filter holds the first back. -/
theorem redaction_leak_free_iff_two_chunks :
    ¬ Utf8.encode "ab".toList <:+: writtenBytes
        (filterResponseStream abFilter ([[0x61], [0x62]].map .ok)) ↔
      NoLeak "ab".toList [0x61, 0x62] (bodyCuts [0x61, 0x62] [1, 1]) :=
  (@redaction_leak_free_iff (fun _ => .error "") abFilter.tables "ab" "ab" "[filtered]"
    abFilter.policy rfl (forall_mem_ab (by decide) (by decide)) (by decide) (by decide)
    abFilter_noOverlap .json none [[0x61], [0x62]]).2

/-! ## §5. A literal across a release. -/

/-- A unit without the literal is one piece. -/
theorem FilterUnit.pieces_of_not_infix {literal text : Text} {unit : FilterUnit}
    (htext : unit.bytes = Utf8.encode text)
    (h : ¬ literal <:+: visible isIgnoredFormatChar text) :
    unit.pieces literal = [unit.bytes] := by
  unfold FilterUnit.pieces piecesOf
  rw [Utf8.decode_eq_some_iff.mpr htext, htext]
  show (Redaction.pieces isIgnoredFormatChar literal text).map Utf8.encode = _
  rw [pieces_of_none (dropInfix_eq_none_iff.mpr h)]
  rfl

/-- A text that is released in front of `right` is written as it is when neither side contains
the literal. -/
theorem writtenBytes_of_release {filter : StreamFilter} {literal left right : Text}
    (hpolicy : filter.policy.SingleLiteral filter.tables literal) (hne : literal ≠ [])
    (hvisible : ∀ ch ∈ literal, isIgnoredFormatChar ch = false)
    (hlong : maxFilterPendingBytes < (Utf8.encode (left ++ right)).length)
    (hright : (Utf8.encode right).length = filterOverlapBytes)
    (hlf : lf ∉ Utf8.encode (left ++ right))
    (hleft : ¬ literal <:+: visible isIgnoredFormatChar left)
    (hright' : ¬ literal <:+: visible isIgnoredFormatChar right) :
    writtenBytes (filterResponseStream filter [.ok (Utf8.encode (left ++ right))]) =
      Utf8.encode (left ++ right) := by
  have hok (unit : FilterUnit) : ∃ out, filter.filterResponseBytes unit.bytes = .ok out :=
    filterResponseBytes_ok filter hpolicy hne hvisible unit.bytes
  -- the cut falls between the two texts
  have hcut : (Utf8.encode (left ++ right)).length - filterOverlapBytes =
      (Utf8.encode left).length := by
    rw [Utf8.encode_append, List.length_append, hright, Nat.add_sub_cancel]
  have hunits := units_of_long_chunk hok hlong hlf
  rw [hcut] at hunits
  have hwritten := (writtenBytes_single_literal filter
    ⟨[.ok (Utf8.encode (left ++ right))], [], false⟩ hpolicy hne hvisible).2
  unfold filterResponseStream at hunits ⊢
  rw [hwritten, hunits, Utf8.encode_append, List.drop_left]
  -- each side is filtered by itself
  have hfirst : (⟨.release, Utf8.encode left ++ Utf8.encode right,
      (Utf8.encode left).length⟩ : FilterUnit).bytes = Utf8.encode left := by
    rw [FilterUnit.bytes_mk, List.take_left]
  have hsecond : (⟨.remaining, Utf8.encode right, (Utf8.encode right).length⟩ :
      FilterUnit).bytes = Utf8.encode right := by
    rw [FilterUnit.bytes_mk, List.take_length]
  rw [List.map_cons, List.map_singleton, FilterUnit.pieces_of_not_infix hfirst hleft,
    FilterUnit.pieces_of_not_infix hsecond hright', hfirst, hsecond, written_cons, written_cons,
    List.intercalate_singleton, List.intercalate_singleton]
  exact congrArg (Utf8.encode left ++ ·) (List.append_nil _)

/-- A body with the literal at the place of the first release. -/
def splitLiteralBody : Bytes :=
  Utf8.encode ((List.replicate 7168 'x' ++ ['a']) ++ ('b' :: List.replicate 1023 'x'))

/-- The literal is written.  Its first letter is the last byte of what is released from a chunk
of 8193 bytes, and its second letter is the first byte of the 1024 that are held back: each
part is filtered alone, and neither has the literal. -/
theorem release_leaks_literal :
    ResponseFilterPolicy.compile (fun _ => .error "") abFilter.tables
        ⟨true, "[filtered]", [⟨"ab", .literal "ab" true, .redact⟩]⟩ = .ok abFilter.policy ∧
      NoOverlap "ab".toList abFilter.policy.replacement ∧ Utf8.Valid splitLiteralBody ∧
      Utf8.encode "ab".toList <:+:
        writtenBytes (filterResponseStream abFilter [.ok splitLiteralBody]) := by
  have hencode (n : Nat) : Utf8.encode (List.replicate n 'x') = List.replicate n 120 :=
    Utf8.encode_replicate (by decide) n
  -- what is released ends in the first letter, what is held back begins with the second
  have hleft : Utf8.encode (List.replicate 7168 'x' ++ ['a']) = List.replicate 7168 120 ++ [97] := by
    rw [Utf8.encode_append, hencode]
    rfl
  have hright : Utf8.encode ('b' :: List.replicate 1023 'x') = 98 :: List.replicate 1023 120 := by
    rw [Utf8.encode_cons, hencode]
    rfl
  have hlength : (Utf8.encode ('b' :: List.replicate 1023 'x')).length = filterOverlapBytes := by
    rw [hright, List.length_cons, List.length_replicate]
    rfl
  have hlong : maxFilterPendingBytes < (Utf8.encode ((List.replicate 7168 'x' ++ ['a']) ++
      ('b' :: List.replicate 1023 'x'))).length := by
    rw [Utf8.encode_append, List.length_append, hlength, hleft, List.length_append,
      List.length_replicate, List.length_singleton]
    decide
  have hlf : lf ∉ Utf8.encode ((List.replicate 7168 'x' ++ ['a']) ++
      ('b' :: List.replicate 1023 'x')) := by
    rw [Utf8.encode_append, hleft, hright]
    simp only [List.mem_append, List.mem_replicate, List.mem_cons, List.not_mem_nil, or_false,
      not_or, not_and]
    exact ⟨⟨fun _ => by decide, by decide⟩, by decide, fun _ => by decide⟩
  -- neither part holds the literal, so neither is changed
  have hnoB : ¬ ['a', 'b'] <:+: visible isIgnoredFormatChar (List.replicate 7168 'x' ++ ['a']) := by
    intro hinside
    have hmem := List.mem_of_mem_filter (hinside.subset (List.mem_cons_of_mem _ List.mem_cons_self))
    simp only [List.mem_append, List.mem_replicate, List.mem_singleton] at hmem
    exact hmem.elim (fun h => absurd h.2 (by decide)) (by decide)
  have hnoA : ¬ ['a', 'b'] <:+: visible isIgnoredFormatChar ('b' :: List.replicate 1023 'x') := by
    intro hinside
    have hmem := List.mem_of_mem_filter (hinside.subset List.mem_cons_self)
    simp only [List.mem_cons, List.mem_replicate] at hmem
    exact hmem.elim (by decide) (fun h => absurd h.2 (by decide))
  have hpolicy : abFilter.policy.SingleLiteral abFilter.tables ['a', 'b'] := ⟨rfl, "ab", rfl⟩
  refine ⟨rfl, abFilter_noOverlap, Utf8.valid_encode _, ?_⟩
  unfold splitLiteralBody
  have hvisible : ∀ ch ∈ ['a', 'b'], isIgnoredFormatChar ch = false :=
    forall_mem_ab (by decide) (by decide)
  rw [writtenBytes_of_release hpolicy (by decide) hvisible hlong hlength hlf hnoB hnoA]
  refine Utf8.infix_encode_iff.mpr ⟨List.replicate 7168 'x', List.replicate 1023 'x', ?_⟩
  have hliteral : "ab".toList = ['a', 'b'] := rfl
  rw [hliteral]
  simp only [List.append_assoc, List.cons_append, List.nil_append]

end OneAiKey

/-
  OneAiKey.FilterStream.Cuts — where a body is cut (`filter_response_stream` of
  `src/upstream_response.rs`).

  The positions at which the stream cuts depend on the bytes of the body and on the
  lengths of the chunks in which they arrive, not on the filter.  When a chunk has
  arrived, the whole events are cut off one by one; if more than the limit is left, it
  is released but for the last bytes; what is left at the end of the body is cut off
  whole.

  `bodyCuts` says this of a body and the lengths of its chunks, without a state.

  Main results:
    * `units_cutAt` — the units that the stream filters are these cuts, up to the first
      at which the filter fails;
    * `bodyCuts_adjacent` — a cut begins where the one before it ends;
    * `infix_bodySlice_iff` — a text inside a slice, by where it begins in the body.
-/
import OneAiKey.FilterStream.Chunking

namespace OneAiKey

/-! ## §1. Slices. -/

/-- The bytes from `start` to `stop`. -/
def bodySlice (body : Bytes) (start stop : Nat) : Bytes := (body.take stop).drop start

section Slices

variable {body pattern : Bytes} {start stop : Nat}

/-- A slice inside the body is as long as its bounds say. -/
theorem length_bodySlice (hstop : stop ≤ body.length) : (bodySlice body start stop).length = stop - start := by
  unfold bodySlice
  rw [List.length_drop, List.length_take, Nat.min_eq_left hstop]

theorem length_bodySlice_le : (bodySlice body start stop).length ≤ stop - start := by
  unfold bodySlice
  rw [List.length_drop, List.length_take]
  omega

theorem take_bodySlice (size : Nat) (h : start + size ≤ stop) :
    (bodySlice body start stop).take size = bodySlice body start (start + size) := by
  unfold bodySlice
  rw [List.take_drop, List.take_take, Nat.min_eq_left h]

theorem drop_bodySlice (size : Nat) :
    (bodySlice body start stop).drop size = bodySlice body (start + size) stop := by
  unfold bodySlice
  rw [List.drop_drop]

theorem getElem?_bodySlice {i : Nat} (h : start + i < stop) :
    (bodySlice body start stop)[i]? = body[start + i]? := by
  unfold bodySlice
  rw [List.getElem?_drop, List.getElem?_take_of_lt h]

/-- Slices that meet are one. -/
theorem bodySlice_append {middle : Nat} (hstart : start ≤ middle) (hstop : middle ≤ stop)
    (hbody : middle ≤ body.length) :
    bodySlice body start middle ++ bodySlice body middle stop = bodySlice body start stop := by
  have hsplit : body.take stop = body.take middle ++ (body.take stop).drop middle := by
    have htake : (body.take stop).take middle = body.take middle := by
      rw [List.take_take, Nat.min_eq_left hstop]
    rw [← htake, List.take_append_drop]
  unfold bodySlice
  conv_rhs => rw [hsplit]
  rw [List.drop_append_of_le_length (by rw [List.length_take, Nat.min_eq_left hbody]; exact hstart)]

/-- A text is inside a slice exactly if it begins and ends there in the body. -/
theorem infix_bodySlice_iff (hpattern : pattern ≠ []) :
    pattern <:+: bodySlice body start stop ↔
      ∃ i, start ≤ i ∧ i + pattern.length ≤ stop ∧ pattern <+: body.drop i := by
  unfold bodySlice
  constructor
  -- it begins as far behind the start as the part before it is long
  · rintro ⟨before, behind, h⟩
    have hlength := congrArg List.length h
    have hpos := List.length_pos_iff.mpr hpattern
    simp only [List.length_append, List.length_drop, List.length_take] at hlength
    refine ⟨start + before.length, Nat.le_add_right _ _, by omega, ?_⟩
    have hdrop : (body.take stop).drop (start + before.length) = pattern ++ behind := by
      rw [← List.drop_drop, ← h, List.append_assoc, List.drop_left]
    refine (List.prefix_append pattern behind).trans ?_
    rw [← hdrop, List.drop_take]
    exact List.take_prefix _ _
  -- its end lies before the stop, so the slice has all of it
  · rintro ⟨i, hstart, hend, behind, hbehind⟩
    have htake : ((body.take stop).drop i).take pattern.length = pattern := by
      rw [List.drop_take, List.take_take, ← hbehind, List.take_append_of_le_length (by omega),
        List.take_of_length_le (by omega)]
    have hinside : pattern <:+: (body.take stop).drop i := by
      rw [← htake]
      exact (List.take_prefix _ _).isInfix
    have hdrop : (body.take stop).drop i = ((body.take stop).drop start).drop (i - start) := by
      rw [List.drop_drop, Nat.add_sub_cancel' hstart]
    rw [hdrop] at hinside
    exact hinside.trans (List.drop_suffix _ _).isInfix

end Slices

/-! ## §2. The cuts of a body. -/

/-- A cut: the bytes from `start` to `stop` become a unit. -/
structure BodyCut where
  kind : CutKind
  start : Nat
  stop : Nat
  deriving DecidableEq, Repr

def BodyCut.bytes (body : Bytes) (cut : BodyCut) : Bytes := bodySlice body cut.start cut.stop

/-- An event of a slice is not empty and ends inside of it. -/
theorem event_bounds {body : Bytes} {start received size : Nat}
    (h : sseEventEnd (bodySlice body start received) = some size) :
    0 < size ∧ start + size ≤ received := by
  have hless := length_drop_lt_of_event h
  have hle := (sseEventEnd_some h).1
  have hlength := @length_bodySlice_le body start received
  rw [List.length_drop] at hless
  omega

/-- The whole events among the bytes from `start` to `received`. -/
def eventCuts (body : Bytes) (start received : Nat) : List BodyCut :=
  match _h : sseEventEnd (bodySlice body start received) with
  | some size => ⟨.event, start, start + size⟩ :: eventCuts body (start + size) received
  | none => []
termination_by received - start
decreasing_by
  have hbounds := event_bounds (by assumption)
  omega

/-- The position behind the last of the cuts, if there is one. -/
def lastStop (start : Nat) (cuts : List BodyCut) : Nat := (cuts.map (·.stop)).getLastD start

/-- What is cut off when the bytes up to `received` have arrived and those up to `start` are
cut off already: the whole events, and of too many bytes behind them all but the last. -/
def pendingCuts (body : Bytes) (start received : Nat) : List BodyCut :=
  let events := eventCuts body start received
  if received - lastStop start events > maxFilterPendingBytes then
    events ++ [⟨.release, lastStop start events, received - filterOverlapBytes⟩]
  else events

/-- The cuts from `start` on, over the lengths of the chunks that are still to come. -/
def cutsFrom (body : Bytes) : Nat → Nat → List Nat → List BodyCut
  | start, received, [] =>
      if start < received then [⟨.remaining, start, received⟩] else []
  | start, received, length :: lengths =>
      let cuts := pendingCuts body start (received + length)
      cuts ++ cutsFrom body (lastStop start cuts) (received + length) lengths

/-- Where a body that arrives in chunks of these lengths is cut. -/
def bodyCuts (body : Bytes) (lengths : List Nat) : List BodyCut := cutsFrom body 0 0 lengths

/-- The cuts that become units: up to the first at which the filter fails. -/
def StreamFilter.reached (filter : StreamFilter) (body : Bytes) : List BodyCut → List BodyCut
  | [] => []
  | cut :: cuts =>
      match filter.filterResponseBytes (cut.bytes body) with
      | .ok _ => cut :: filter.reached body cuts
      | .error _ => [cut]

section Events

variable {body : Bytes} {start received : Nat}

/-- Where an event is complete, it is cut off, and the rest goes on behind it. -/
theorem eventCuts_of_some {size : Nat}
    (h : sseEventEnd (bodySlice body start received) = some size) :
    eventCuts body start received =
      ⟨.event, start, start + size⟩ :: eventCuts body (start + size) received := by
  rw [eventCuts]
  split
  · next size' hsize' =>
      rw [h] at hsize'
      cases hsize'
      rfl
  · next hnone =>
      rw [h] at hnone
      cases hnone

/-- Where no event is complete, none is cut off. -/
theorem eventCuts_of_none (h : sseEventEnd (bodySlice body start received) = none) :
    eventCuts body start received = [] := by
  rw [eventCuts]
  split
  · next size hsize =>
      rw [h] at hsize
      cases hsize
  · rfl

theorem lastStop_cons (start : Nat) (cut : BodyCut) (cuts : List BodyCut) :
    lastStop start (cut :: cuts) = lastStop cut.stop cuts := by
  unfold lastStop
  rw [List.map_cons, List.getLastD_cons]

/-- The end of two runs of cuts is that of the second, begun where the first ends. -/
theorem lastStop_append (start : Nat) (cuts cuts' : List BodyCut) :
    lastStop start (cuts ++ cuts') = lastStop (lastStop start cuts) cuts' := by
  induction cuts generalizing start with
  | nil => rfl
  | cons cut cuts ih => rw [List.cons_append, lastStop_cons, lastStop_cons, ih]

/-- Behind the whole events there is none. -/
theorem lastStop_eventCuts (hstart : start ≤ received) :
    start ≤ lastStop start (eventCuts body start received) ∧
      lastStop start (eventCuts body start received) ≤ received ∧
      sseEventEnd (bodySlice body (lastStop start (eventCuts body start received)) received) =
        none := by
  induction start using eventCuts.induct body received with
  | case1 start size hsize ih =>
      have hbounds := event_bounds hsize
      obtain ⟨hle, hlast, hnone⟩ := ih hbounds.2
      rw [eventCuts_of_some hsize, lastStop_cons]
      exact ⟨Nat.le_trans (Nat.le_add_right start size) hle, hlast, hnone⟩
  | case2 start hnone =>
      rw [eventCuts_of_none hnone]
      exact ⟨Nat.le_refl _, hstart, hnone⟩

/-- Where no event is whole, none is behind a later position either. -/
theorem sseEventEnd_drop_of_none {bytes : Bytes} (h : sseEventEnd bytes = none) (size : Nat) :
    sseEventEnd (bytes.drop size) = none := by
  have hoccurs : ∀ {pattern : Bytes} {stop : Nat}, size ≤ bytes.length →
      OccursEnding pattern (bytes.drop size) stop → OccursEnding pattern bytes (size + stop) := by
    rintro pattern stop hsize ⟨hle, hsuffix⟩
    rw [List.length_drop] at hle
    refine ⟨by omega, hsuffix.trans ?_⟩
    rw [List.take_drop]
    exact List.drop_suffix _ _
  by_cases hsize : size ≤ bytes.length
  · cases hfound : sseEventEnd (bytes.drop size) with
    | none => rfl
    | some stop =>
        have hboundary := (sseEventEnd_eq_some_iff.mp hfound).1
        exact absurd (hboundary.imp (hoccurs hsize) (hoccurs hsize))
          (not_eventBoundary_of_none h (size + stop))
  · rw [List.drop_of_length_le (by omega)]
    rfl

end Events

/-! ## §3. Cuts that meet. -/

/-- The first cut begins at `start` and every other one where the one before it ends, up to
`limit` at most. -/
def AdjacentFrom (limit : Nat) : Nat → List BodyCut → Prop
  | _, [] => True
  | start, cut :: cuts =>
      cut.start = start ∧ cut.start ≤ cut.stop ∧ cut.stop ≤ limit ∧
        AdjacentFrom limit cut.stop cuts

section Adjacent

variable {limit start received : Nat} {body : Bytes}

/-- Two runs of cuts lie one behind the other if each does and the second begins where the first
ends. -/
theorem adjacentFrom_append {cuts cuts' : List BodyCut} :
    AdjacentFrom limit start (cuts ++ cuts') ↔
      AdjacentFrom limit start cuts ∧ AdjacentFrom limit (lastStop start cuts) cuts' := by
  induction cuts generalizing start with
  | nil => exact (true_and _).symm.to_iff
  | cons cut cuts ih =>
      rw [List.cons_append, lastStop_cons]
      show _ ∧ _ ∧ _ ∧ AdjacentFrom limit cut.stop (cuts ++ cuts') ↔ (_ ∧ _ ∧ _ ∧ _) ∧ _
      rw [ih, and_assoc, and_assoc, and_assoc]

/-- The cuts of events lie one behind the other, inside the received part. -/
theorem adjacentFrom_eventCuts (hreceived : received ≤ limit) :
    AdjacentFrom limit start (eventCuts body start received) := by
  induction start using eventCuts.induct body received with
  | case1 start size hsize ih =>
      have hbounds := event_bounds hsize
      rw [eventCuts_of_some hsize]
      exact ⟨rfl, Nat.le_add_right start size, Nat.le_trans hbounds.2 hreceived, ih⟩
  | case2 start hnone =>
      rw [eventCuts_of_none hnone]
      trivial

/-- With the release of a long segment the cuts still do. -/
theorem adjacentFrom_pendingCuts (hstart : start ≤ received) (hreceived : received ≤ limit) :
    AdjacentFrom limit start (pendingCuts body start received) ∧
      lastStop start (pendingCuts body start received) ≤ received := by
  have hevents := @adjacentFrom_eventCuts limit start received body hreceived
  have hstop := (@lastStop_eventCuts body start received hstart).2.1
  unfold pendingCuts
  dsimp only
  split
  · next hlong =>
      unfold maxFilterPendingBytes at hlong
      rw [adjacentFrom_append, lastStop_append, lastStop_cons]
      show (_ ∧ AdjacentFrom limit _ [_]) ∧ received - filterOverlapBytes ≤ received
      unfold filterOverlapBytes
      refine ⟨⟨hevents, rfl, ?_, ?_, trivial⟩, Nat.sub_le _ _⟩
      · dsimp only
        omega
      · dsimp only
        omega
  · exact ⟨hevents, hstop⟩

/-- So do the cuts of all chunks. -/
theorem adjacentFrom_cutsFrom (lengths : List Nat) (hstart : start ≤ received)
    (hlimit : received + lengths.sum ≤ limit) :
    AdjacentFrom limit start (cutsFrom body start received lengths) := by
  induction lengths generalizing start received with
  | nil =>
      unfold cutsFrom
      rw [List.sum_nil] at hlimit
      split
      · exact ⟨rfl, hstart, hlimit, trivial⟩
      · trivial
  | cons length lengths ih =>
      rw [List.sum_cons] at hlimit
      have hstart' : start ≤ received + length := Nat.le_trans hstart (Nat.le_add_right _ _)
      obtain ⟨hcuts, hstop⟩ :=
        @adjacentFrom_pendingCuts limit start (received + length) body hstart' (by omega)
      unfold cutsFrom
      exact adjacentFrom_append.mpr ⟨hcuts, ih hstop (by omega)⟩

/-- Two cuts in a row meet, inside the body. -/
theorem AdjacentFrom.of_append {before behind : List BodyCut} {cut next : BodyCut}
    (h : AdjacentFrom limit start (before ++ cut :: next :: behind)) :
    next.start = cut.stop ∧ cut.start ≤ cut.stop ∧ cut.stop ≤ limit ∧ next.start ≤ next.stop := by
  obtain ⟨-, -, hcut, hlimit, hnext, hle, -⟩ := adjacentFrom_append.mp h
  exact ⟨hnext, hcut, hlimit, hle⟩

end Adjacent

/-- The cuts of a body in chunks meet. -/
theorem bodyCuts_adjacent (chunks : List Bytes) :
    AdjacentFrom chunks.flatten.length 0
      (bodyCuts chunks.flatten (chunks.map List.length)) := by
  apply adjacentFrom_cutsFrom _ (Nat.le_refl 0)
  rw [List.length_flatten, Nat.zero_add]

/-! ## §4. The units of a stream. -/

/-- A unit of the stream is a cut of the body. -/
structure CutAt (body : Bytes) (unit : FilterUnit) (cut : BodyCut) : Prop where
  kind : unit.kind = cut.kind
  bytes : unit.bytes = cut.bytes body
  /-- The byte behind a release. -/
  behind : cut.kind = .release → unit.pending[unit.size]? = body[cut.stop]?

/-- The items have these cuts as their units, as far as the filter gets. -/
def CutInto (filter : StreamFilter) (body : Bytes) (items : List Yielded)
    (cuts : List BodyCut) : Prop :=
  List.Forall₂ (CutAt body) (unitsOf items) (filter.reached body cuts)

section Units

variable {filter : StreamFilter} {body : Bytes} {start received : Nat} {stream : List StreamItem}
  {finished : Bool} {cuts : List BodyCut}

/-- One unit more. -/
theorem cutInto_of_cut {state state' : FilterStreamState} {unit : FilterUnit} {cut : BodyCut}
    (hturn : state.turn = .cut unit state') (hcut : CutAt body unit cut)
    (h : CutInto filter body (filterFrom filter state') cuts) :
    CutInto filter body (filterFrom filter state) (cut :: cuts) := by
  unfold CutInto StreamFilter.reached
  rw [← hcut.bytes]
  cases hout : filter.filterResponseBytes unit.bytes with
  | ok out =>
      rw [filterFrom_cut_ok hturn hout]
      exact .cons hcut h
  | error fault =>
      rw [filterFrom_cut_error hturn hout]
      exact .cons hcut .nil

/-- The stream cuts off the whole events. -/
theorem cutInto_events
    (h : CutInto filter body (filterFrom filter
      ⟨stream, bodySlice body (lastStop start (eventCuts body start received)) received,
        finished⟩) cuts) :
    CutInto filter body (filterFrom filter ⟨stream, bodySlice body start received, finished⟩)
      (eventCuts body start received ++ cuts) := by
  induction start using eventCuts.induct body received with
  | case1 start size hsize ih =>
      have hbounds := event_bounds hsize
      rw [eventCuts_of_some hsize, lastStop_cons] at h
      rw [eventCuts_of_some hsize, List.cons_append]
      refine cutInto_of_cut (turn_of_event hsize) ⟨rfl, ?_, nofun⟩ ?_
      · exact take_bodySlice size hbounds.2
      · show CutInto filter body (filterFrom filter ⟨stream, (bodySlice body start received).drop
          size, finished⟩) _
        rw [drop_bodySlice]
        exact ih h
  | case2 start hnone =>
      rw [eventCuts_of_none hnone] at h ⊢
      exact h

/-- And of too many bytes behind them all but the last. -/
theorem cutInto_release (hnone : sseEventEnd (bodySlice body start received) = none)
    (hreceived : received ≤ body.length) (hlong : received - start > maxFilterPendingBytes)
    (h : CutInto filter body (filterFrom filter
      ⟨stream, bodySlice body (received - filterOverlapBytes) received, finished⟩) cuts) :
    CutInto filter body (filterFrom filter ⟨stream, bodySlice body start received, finished⟩)
      (⟨.release, start, received - filterOverlapBytes⟩ :: cuts) := by
  have hlength := @length_bodySlice body start received hreceived
  -- without a whole event, too many pending bytes are released but for the overlap
  have hturn : (⟨stream, bodySlice body start received, finished⟩ : FilterStreamState).turn =
      FilterStreamState.cut ⟨stream, bodySlice body start received, finished⟩ .release
        (received - start - filterOverlapBytes) := by
    unfold FilterStreamState.turn
    dsimp only
    rw [hnone, hlength]
    exact if_pos hlong
  have hstop : start + (received - start - filterOverlapBytes) = received - filterOverlapBytes := by
    unfold maxFilterPendingBytes at hlong
    unfold filterOverlapBytes
    omega
  -- the release ends before what has arrived, so bytes are left
  have hbehind : start + (received - start - filterOverlapBytes) < received := by
    rw [hstop]
    unfold maxFilterPendingBytes at hlong
    unfold filterOverlapBytes
    omega
  refine cutInto_of_cut hturn ⟨rfl, ?_, fun _ => ?_⟩ ?_
  · rw [FilterUnit.bytes_mk, take_bodySlice _ hbehind.le, hstop]
    rfl
  · rw [getElem?_bodySlice hbehind, hstop]
  · show CutInto filter body (filterFrom filter ⟨stream, (bodySlice body start received).drop
      (received - start - filterOverlapBytes), finished⟩) _
    rw [drop_bodySlice, hstop]
    exact h

/-- What is left at the end of the body is cut off whole. -/
theorem cutInto_remaining (hnone : sseEventEnd (bodySlice body start received) = none)
    (hreceived : received = body.length) (hshort : ¬ received - start > maxFilterPendingBytes) :
    CutInto filter body (filterFrom filter ⟨[], bodySlice body start received, false⟩)
      (if start < received then [⟨.remaining, start, received⟩] else []) := by
  have hlength := @length_bodySlice body start received hreceived.le
  rw [← hlength] at hshort
  -- the stream is asked for more, finds its end, and cuts off what is left
  have hpoll := @turn_of_short ⟨[], bodySlice body start received, false⟩ hnone hshort
  have hlast := @turn_of_short ⟨[], bodySlice body start received, true⟩ hnone hshort
  rw [filterFrom_polled hpoll]
  by_cases hleft : start < received
  · have hne : (bodySlice body start received).isEmpty = false := by
      rw [List.isEmpty_eq_false_iff_exists_mem]
      exact List.exists_mem_of_length_pos (by rw [hlength]; omega)
    dsimp only at hlast
    rw [if_pos rfl, hne] at hlast
    rw [if_pos hleft]
    refine cutInto_of_cut hlast ⟨rfl, ?_, nofun⟩ ?_
    · rw [FilterUnit.bytes_mk, List.take_length]
      rfl
    · show CutInto filter body (filterFrom filter ⟨[], (bodySlice body start received).drop
        (bodySlice body start received).length, true⟩) []
      rw [List.drop_length, filterFrom_ended rfl]
      exact .nil
  -- nothing is left, and so nothing is cut off
  · have hempty : bodySlice body start received = [] := by
      rw [← List.length_eq_zero_iff, hlength]
      omega
    rw [if_neg hleft, hempty, filterFrom_ended rfl]
    exact .nil

/-- By induction over the chunks: the bytes up to `received` have arrived, and no cut is due. -/
theorem cutInto_cutsFrom (filter : StreamFilter) (body : Bytes) (chunks : List Bytes) :
    ∀ start received, start ≤ received → received ≤ body.length →
      body.drop received = chunks.flatten →
      sseEventEnd (bodySlice body start received) = none →
      ¬ received - start > maxFilterPendingBytes →
      CutInto filter body
        (filterFrom filter ⟨chunks.map .ok, bodySlice body start received, false⟩)
        (cutsFrom body start received (chunks.map List.length)) := by
  induction chunks with
  | nil =>
      intro start received _ hreceived hbody hnone hshort
      have hend : received = body.length := by
        have hlength := congrArg List.length hbody
        rw [List.length_drop] at hlength
        exact Nat.le_antisymm hreceived (Nat.le_of_sub_eq_zero hlength)
      exact cutInto_remaining hnone hend hshort
  | cons chunk chunks ih =>
      intro start received hstart hreceived hbody hnone hshort
      have hlength := @length_bodySlice body start received hreceived
      have hturn := @turn_of_short
        ⟨(chunk :: chunks).map .ok, bodySlice body start received, false⟩ hnone
        (hlength ▸ hshort)
      -- the chunk is the next part of the body
      have hnext : received + chunk.length ≤ body.length ∧
          body.drop (received + chunk.length) = chunks.flatten ∧
          bodySlice body start received ++ chunk =
            bodySlice body start (received + chunk.length) := by
        rw [List.flatten_cons] at hbody
        have hall := congrArg List.length hbody
        rw [List.length_drop, List.length_append] at hall
        refine ⟨by omega, ?_, ?_⟩
        · rw [← List.drop_drop, hbody, List.drop_left]
        · have hchunk : chunk = bodySlice body received (received + chunk.length) := by
            unfold bodySlice
            rw [List.drop_take, hbody, Nat.add_sub_cancel_left, List.take_left]
          conv_lhs => rw [hchunk]
          exact bodySlice_append hstart (Nat.le_add_right _ _) hreceived
      obtain ⟨hreceived', hbody', hpending⟩ := hnext
      rw [filterFrom_polled hturn]
      show CutInto filter body (filterFrom filter ⟨chunks.map .ok,
        bodySlice body start received ++ chunk, false⟩) _
      rw [hpending, List.map_cons]
      unfold cutsFrom
      dsimp only
      obtain ⟨-, hstop, hnone'⟩ := @lastStop_eventCuts body start (received + chunk.length)
        (Nat.le_trans hstart (Nat.le_add_right _ _))
      unfold pendingCuts
      dsimp only
      split
      · next hlong =>
          rw [lastStop_append, lastStop_cons, List.append_assoc, List.singleton_append]
          refine cutInto_events (cutInto_release hnone' hreceived' hlong ?_)
          show CutInto filter body _ (cutsFrom body (received + chunk.length - filterOverlapBytes)
            _ _)
          -- what a release keeps has no event and is short
          refine ih _ _ (Nat.sub_le _ _) hreceived' hbody' ?_ ?_
          · have hdrop := sseEventEnd_drop_of_none hnone' (received + chunk.length -
              lastStop start (eventCuts body start (received + chunk.length)) - filterOverlapBytes)
            rw [drop_bodySlice] at hdrop
            have hposition : lastStop start (eventCuts body start (received + chunk.length)) +
                (received + chunk.length -
                  lastStop start (eventCuts body start (received + chunk.length)) -
                  filterOverlapBytes) = received + chunk.length - filterOverlapBytes := by
              unfold maxFilterPendingBytes at hlong
              unfold filterOverlapBytes
              omega
            rw [hposition] at hdrop
            exact hdrop
          · unfold maxFilterPendingBytes filterOverlapBytes
            omega
      · next hfew => exact cutInto_events (ih _ _ hstop hreceived' hbody' hnone' hfew)

/-- The units of a body in chunks are its cuts, as far as the filter gets. -/
theorem units_cutAt (filter : StreamFilter) (chunks : List Bytes) :
    List.Forall₂ (CutAt chunks.flatten)
      (unitsOf (filterResponseStream filter (chunks.map .ok)))
      (filter.reached chunks.flatten (bodyCuts chunks.flatten (chunks.map List.length))) := by
  refine cutInto_cutsFrom filter chunks.flatten chunks 0 0 (Nat.le_refl 0) (Nat.zero_le _) rfl
    ?_ (by decide)
  exact sseEventEnd_of_not_mem List.not_mem_nil

/-- A filter that never fails gets through all cuts. -/
theorem reached_of_ok (hok : ∀ bytes, ∃ out, filter.filterResponseBytes bytes = .ok out)
    (cuts : List BodyCut) : filter.reached body cuts = cuts := by
  induction cuts with
  | nil => rfl
  | cons cut cuts ih =>
      obtain ⟨out, hout⟩ := hok (cut.bytes body)
      unfold StreamFilter.reached
      rw [hout, ih]

end Units

end OneAiKey

import Mathlib.Data.List.Perm.Basic
import TelemetryRelay.Proofs.Conservation

/-!
Conservation with many batches out at once. Batches may be detached one after another and put back
in any order: every point stays in one place, and the points of a batch stay together.
-/

namespace TelemetryRelay

/-- A collector and the batches that were detached from it and are not back yet. -/
structure Custody where
  collector : Collector
  outstanding : List Batch

/-- What is done with a collector whose batches are kept. An outstanding batch is called by its
place; once it is put back it is no longer there to be put back again. -/
inductive Handling
  | arrival (arrival : Arrival)
  | refresh (now : Int64)
  | detach
  | reattach (place : Nat)

def Handling.envelopes : Handling → List Envelope
  | .arrival arrived => arrived.envelopes
  | .refresh _ => []
  | .detach => []
  | .reattach _ => []

namespace Custody

def fresh (deployment address : String) : Custody :=
  ⟨.fresh deployment address, []⟩

def step (custody : Custody) : Handling → Custody
  | .arrival arrival => { custody with collector := custody.collector.arrive arrival }
  | .refresh now => { custody with collector := custody.collector.refresh now }
  | .detach => ⟨custody.collector.detach.2, custody.outstanding ++ [custody.collector.detach.1]⟩
  | .reattach place =>
    match custody.outstanding[place]? with
    | none => custody
    | some batch => ⟨custody.collector.reattach batch, custody.outstanding.eraseIdx place⟩

def run (custody : Custody) (handlings : List Handling) : Custody :=
  handlings.foldl step custody

def batches (custody : Custody) : List Batch :=
  custody.collector.batch :: custody.outstanding

def pointsHeld (custody : Custody) (key : SeriesId) : List Point :=
  custody.batches.flatMap fun batch => batch.points key

theorem pointsHeld_eq (custody : Custody) (key : SeriesId) :
    custody.pointsHeld key =
      custody.collector.batch.points key ++
        custody.outstanding.flatMap fun batch => batch.points key :=
  List.flatMap_cons

variable {key : SeriesId}

theorem step_reattach {custody : Custody} {place : Nat} {batch : Batch}
    (found : custody.outstanding[place]? = some batch) :
    custody.step (.reattach place) =
      ⟨custody.collector.reattach batch, custody.outstanding.eraseIdx place⟩ := by
  simp only [step, found]

theorem points_reattach (collector : Collector) (batch : Batch) (external : key.kind ≠ .internal) :
    (collector.reattach batch).batch.points key =
      batch.points key ++ collector.batch.points key :=
  Batch.points_prepend batch collector.batch key external

theorem outstanding_perm {custody : Custody} {place : Nat} {batch : Batch}
    (found : custody.outstanding[place]? = some batch) :
    custody.outstanding.Perm (batch :: custody.outstanding.eraseIdx place) := by
  obtain ⟨inside, same⟩ := List.getElem?_eq_some_iff.mp found
  rw [← same]
  exact (List.getElem_cons_eraseIdx_perm inside).symm

theorem pointsHeld_step (custody : Custody) (handling : Handling)
    (external : key.kind ≠ .internal) :
    ((custody.step handling).pointsHeld key).Perm
      (custody.pointsHeld key ++
        handling.envelopes.filterMap fun envelope => envelope.point? key) := by
  cases handling with
  | arrival arrival =>
      rw [pointsHeld_eq, pointsHeld_eq, step, Handling.envelopes,
        Collector.points_arrive _ _ external, List.append_assoc, List.append_assoc]
      exact List.Perm.append_left _ List.perm_append_comm
  | refresh now =>
      rw [pointsHeld_eq, pointsHeld_eq, step, Handling.envelopes,
        Collector.points_refresh _ _ external, List.filterMap_nil, List.append_nil]
  | detach =>
      have emptied : custody.collector.detach.2.batch.points key = [] := Batch.points_empty key
      have whole : custody.collector.detach.1 = custody.collector.batch := rfl
      rw [pointsHeld_eq, pointsHeld_eq, step, Handling.envelopes, emptied, whole, List.nil_append,
        List.flatMap_append, List.flatMap_singleton, List.filterMap_nil, List.append_nil]
      exact List.perm_append_comm
  | reattach place =>
      rw [Handling.envelopes, List.filterMap_nil, List.append_nil]
      cases found : custody.outstanding[place]? with
      | none =>
          have unchanged : custody.step (.reattach place) = custody := by
            simp only [step, found]
          rw [unchanged]
      | some batch =>
          rw [step_reattach found, pointsHeld_eq, pointsHeld_eq, points_reattach _ _ external,
            List.append_assoc]
          have outside := (outstanding_perm found).flatMap_right fun batch => batch.points key
          rw [List.flatMap_cons] at outside
          calc
            (batch.points key ++ (custody.collector.batch.points key ++
                (custody.outstanding.eraseIdx place).flatMap fun batch => batch.points key)).Perm
              (custody.collector.batch.points key ++ (batch.points key ++
                (custody.outstanding.eraseIdx place).flatMap fun batch => batch.points key)) :=
              List.perm_append_comm_assoc _ _ _
            List.Perm _ (custody.collector.batch.points key ++
                custody.outstanding.flatMap fun batch => batch.points key) :=
              outside.symm.append_left _

theorem pointsHeld_run (custody : Custody) (handlings : List Handling)
    (external : key.kind ≠ .internal) :
    ((custody.run handlings).pointsHeld key).Perm
      (custody.pointsHeld key ++
        (handlings.flatMap Handling.envelopes).filterMap fun envelope => envelope.point? key) := by
  induction handlings generalizing custody with
  | nil => simp [run]
  | cons handling rest ih =>
      have stepped := custody.pointsHeld_step handling external
      rw [List.flatMap_cons, List.filterMap_append, ← List.append_assoc]
      exact (ih (custody.step handling)).trans (stepped.append_right _)

/-- What is done next may put points before or after those of a batch, but none between them. -/
theorem together_step (custody : Custody) (handling : Handling) (external : key.kind ≠ .internal)
    {batch : Batch} (member : batch ∈ custody.batches) :
    ∃ held ∈ (custody.step handling).batches, batch.points key <:+: held.points key := by
  rcases List.mem_cons.mp member with rfl | outside
  case inl =>
    cases handling with
    | arrival arrival =>
        refine ⟨_, List.mem_cons_self, ?_⟩
        rw [step, Collector.points_arrive _ _ external]
        exact (List.prefix_append _ _).isInfix
    | refresh now =>
        have kept : (custody.collector.refresh now).batch.points key =
            custody.collector.batch.points key := Collector.points_refresh _ _ external
        exact ⟨_, List.mem_cons_self, kept ▸ List.infix_rfl⟩
    | detach =>
        have last : custody.collector.batch ∈ (custody.step .detach).batches := by
          simp [step, batches, Collector.detach]
        exact ⟨_, last, List.infix_rfl⟩
    | reattach place =>
        cases found : custody.outstanding[place]? with
        | none => exact ⟨_, by simp [step, found, batches], List.infix_rfl⟩
        | some older =>
            rw [step_reattach found]
            refine ⟨_, List.mem_cons_self, ?_⟩
            rw [points_reattach _ _ external]
            exact (List.suffix_append _ _).isInfix
  case inr =>
    cases handling with
    | arrival arrival => exact ⟨batch, List.mem_cons_of_mem _ outside, List.infix_rfl⟩
    | refresh now => exact ⟨batch, List.mem_cons_of_mem _ outside, List.infix_rfl⟩
    | detach =>
        have still : batch ∈ (custody.step .detach).batches :=
          List.mem_cons_of_mem _ (List.mem_append_left _ outside)
        exact ⟨batch, still, List.infix_rfl⟩
    | reattach place =>
        cases found : custody.outstanding[place]? with
        | none => exact ⟨batch, by simp [step, found, batches, outside], List.infix_rfl⟩
        | some older =>
            rw [step_reattach found]
            rcases List.mem_cons.mp ((outstanding_perm found).subset outside) with rfl | other
            · refine ⟨_, List.mem_cons_self, ?_⟩
              rw [points_reattach _ _ external]
              exact (List.prefix_append _ _).isInfix
            · exact ⟨batch, List.mem_cons_of_mem _ other, List.infix_rfl⟩

theorem together_run (custody : Custody) (handlings : List Handling)
    (external : key.kind ≠ .internal) {batch : Batch} (member : batch ∈ custody.batches) :
    ∃ held ∈ (custody.run handlings).batches, batch.points key <:+: held.points key := by
  induction handlings generalizing custody batch with
  | nil => exact ⟨batch, member, List.infix_rfl⟩
  | cons handling rest ih =>
      obtain ⟨next, nextMember, within⟩ := custody.together_step handling external member
      obtain ⟨held, heldMember, rest⟩ := ih (custody.step handling) nextMember
      exact ⟨held, heldMember, within.trans rest⟩

/-- Whatever batches are out and in whatever order they come back, the points of a series are those
that were received: some pending, and the others in the batches that are out. The points of a batch
that comes back stand before the pending ones, and from then on they stay next to each other. -/
theorem detached_points_conserved (deployment address : String) (handlings : List Handling)
    (key : SeriesId) (external : key.kind = .value ∨ key.kind = .counter) :
    let custody := (Custody.fresh deployment address).run handlings
    ((custody.collector.batch :: custody.outstanding).flatMap fun batch => batch.points key).Perm
        ((handlings.flatMap Handling.envelopes).filterMap fun envelope => envelope.point? key) ∧
      ∀ place batch, custody.outstanding[place]? = some batch →
        let restored := custody.step (.reattach place)
        restored.outstanding = custody.outstanding.eraseIdx place ∧
          restored.collector.batch.points key =
            batch.points key ++ custody.collector.batch.points key ∧
          ∀ later, ∃ held ∈ (restored.run later).batches,
            batch.points key <:+: held.points key := by
  intro custody
  have notInternal : key.kind ≠ .internal := by
    rcases external with kind | kind <;> simp [kind]
  refine ⟨?_, ?_⟩
  · have nothing : (Custody.fresh deployment address).pointsHeld key = [] := by
      simp [pointsHeld, batches, Custody.fresh, Collector.fresh]
    have held := (Custody.fresh deployment address).pointsHeld_run handlings notInternal
    rwa [nothing, List.nil_append] at held
  · intro place batch found restored
    have points : restored.collector.batch.points key =
        batch.points key ++ custody.collector.batch.points key := by
      simp only [restored, step_reattach found]
      exact points_reattach _ _ notInternal
    refine ⟨by simp only [restored, step_reattach found], points, ?_⟩
    intro later
    have pending : restored.collector.batch ∈ restored.batches := List.mem_cons_self
    obtain ⟨held, member, within⟩ := restored.together_run later notInternal pending
    refine ⟨held, member, List.IsInfix.trans ?_ within⟩
    rw [points]
    exact (List.prefix_append _ _).isInfix

theorem detached_points_conserved_crossed :
    let reading (time : Int64) (value : Nat) : Envelope :=
      ⟨some "router", time, none, some "api", none, none, [],
        .valueMetric ⟨"load", .ofNat value, ""⟩⟩
    let key : SeriesId := .of .value "router.load" ⟨["job=api"]⟩
    let handlings : List Handling :=
      [.arrival (.envelope (reading 1000000000 5)), .detach,
        .arrival (.envelope (reading 2000000000 6)), .detach,
        .arrival (.envelope (reading 3000000000 7)), .reattach 0]
    let custody := (Custody.fresh "cf" "10.0.0.1").run handlings
    (custody.pointsHeld key).Perm [⟨1, .ofNat 5⟩, ⟨2, .ofNat 6⟩, ⟨3, .ofNat 7⟩] ∧
      (custody.step (.reattach 0)).collector.batch.points key =
        [⟨2, .ofNat 6⟩, ⟨1, .ofNat 5⟩, ⟨3, .ofNat 7⟩] := by
  intro reading key handlings custody
  have named (time : Int64) (value : Nat) :
      .of .value "router.load" (reading time value).seriesTags = key := rfl
  have measured (time : Int64) (value : Nat) :
      (reading time value).measurement? = some ⟨.value, "router.load", .ofNat value⟩ := rfl
  have first : (reading 1000000000 5).point? key = some ⟨1, .ofNat 5⟩ :=
    Envelope.point?_of_finite (measured _ 5) (by decide) (named _ 5) (by decide)
  have second : (reading 2000000000 6).point? key = some ⟨2, .ofNat 6⟩ :=
    Envelope.point?_of_finite (measured _ 6) (by decide) (named _ 6) (by decide)
  have third : (reading 3000000000 7).point? key = some ⟨3, .ofNat 7⟩ :=
    Envelope.point?_of_finite (measured _ 7) (by decide) (named _ 7) (by decide)
  obtain ⟨conserved, restore⟩ :=
    detached_points_conserved "cf" "10.0.0.1" handlings key (.inl rfl)
  have received : handlings.flatMap Handling.envelopes =
      [reading 1000000000 5, reading 2000000000 6, reading 3000000000 7] := rfl
  rw [received, List.filterMap_cons, first, List.filterMap_cons, second, List.filterMap_cons,
    third] at conserved
  refine ⟨conserved, ?_⟩
  obtain ⟨-, points, -⟩ := restore 0 _ rfl
  have emptied (collector : Collector) : collector.detach.2.batch.points key = [] :=
    Batch.points_empty key
  have started : (Collector.fresh "cf" "10.0.0.1").batch.points key = [] := Batch.points_empty key
  let older := (Collector.fresh "cf" "10.0.0.1").add (reading 1000000000 5)
  let newer := older.detach.2.add (reading 2000000000 6)
  have collected : custody.collector =
      (newer.detach.2.add (reading 3000000000 7)).reattach older.batch := rfl
  have external : key.kind ≠ .internal := by decide
  refine points.trans ?_
  rw [collected, points_reattach _ _ external]
  change newer.batch.points key ++ _ = _
  simp only [newer, older, Collector.points_add, emptied, started, first, second, third]
  rfl

end Custody

end TelemetryRelay

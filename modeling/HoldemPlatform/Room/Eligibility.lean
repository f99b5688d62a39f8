import HoldemPlatform.Room.HandLog
import HoldemPlatform.Room.Participants

/-!
# Who Is Dealt In

A `Ready` counts the seats that are ready with an address and both keys, but the deal it starts goes
to every seat the engine knows, and those only grow: a seat that left, or never was ready, is dealt
in all the same. `Leave` forgets the address of a seat and keeps its keys. So the seats dealt in are
eligible exactly if every seat of the engine is ready, has an address, and has bound its keys since
it last left.

What the room knows about its seats depends on the commands alone (`roomStep_registers`), and each
register is on from the command that sets it until the seat leaves (`run_iff_since`).
-/

namespace HoldemPlatform.Room.Eligibility

open HoldemPlatform.Lib.Run HoldemPlatform.Domain.Money HoldemPlatform.Domain.Game
open HoldemPlatform.Engine.State HoldemPlatform.Engine.Deal
open HoldemPlatform.Room.Actor HoldemPlatform.Room.Effect HoldemPlatform.Room.HandLog
open HoldemPlatform.Room.Participants

variable {Card : Type}

/-! ### The commands of a seat -/

def Joins (s : SeatId) (_ : Registers) (cmd : RoomCommand) : Prop := cmd = .join s

def BindsAddress (s : SeatId) (r : Registers) : RoomCommand → Prop
  | .bindAddress seatId _ => seatId = s ∧ seatId ∈ r.seated
  | _ => False

def BindsKeys (s : SeatId) (r : Registers) : RoomCommand → Prop
  | .bindSessionKeys seatId _ _ _ _ => seatId = s ∧ seatId ∈ r.seated
  | _ => False

instance (s : SeatId) (r : Registers) : DecidablePred (BindsKeys s r) := by
  intro cmd
  unfold BindsKeys
  split <;> infer_instance

/-- A command of the history did this, and the seat has not left since. -/
def SinceLeave (s : SeatId) (C : Registers → RoomCommand → Prop) (history : List RoomCommand) :
    Prop :=
  Since registerStep C (· ≠ .leave s) {} history

section

variable {s : SeatId} {history : List RoomCommand}

theorem mem_seated_iff :
    s ∈ (run registerStep {} history).seated ↔ SinceLeave s (Joins s) history := by
  refine run_iff_since (fun r : Registers => s ∈ r.seated) (fun r cmd => ?_) (Finset.notMem_empty s)
    history
  cases cmd <;> simp only [registerStep, Joins]
  case join seatId => simp [eq_comm]
  case leave seatId => simp [and_comm, eq_comm]
  all_goals try split_ifs
  all_goals simp

theorem mem_boundAddresses_iff :
    s ∈ (run registerStep {} history).boundAddresses ↔ SinceLeave s (BindsAddress s) history := by
  refine run_iff_since (fun r : Registers => s ∈ r.boundAddresses) (fun r cmd => ?_)
    (AList.notMem_empty s) history
  cases cmd <;> simp only [registerStep, BindsAddress]
  case leave seatId => simp [and_comm, eq_comm]
  case bindAddress seatId address =>
    split_ifs with hseat
    · simp [hseat, eq_comm]
    · simp [hseat]
  all_goals try split_ifs
  all_goals simp

theorem ready_subset_seated :
    (run registerStep {} history).ready ⊆ (run registerStep {} history).seated := by
  refine run_inv (fun r : Registers => r.ready ⊆ r.seated) (fun r cmd h => ?_) history
    (Finset.Subset.refl _)
  cases cmd <;> simp only [registerStep] <;> try exact h
  case join seatId =>
    exact (Finset.erase_subset _ _).trans (h.trans (Finset.subset_insert _ _))
  case leave seatId => exact Finset.erase_subset_erase _ h
  case ready seatId =>
    split_ifs with hseat
    · exact Finset.insert_subset hseat h
    · exact h
  all_goals
    split_ifs
    · exact h
    · exact h

/-- Keys are never forgotten. -/
theorem keys_of_since (h : SinceLeave s (BindsKeys s) history) :
    s ∈ (run registerStep {} history).cardPubkeys ∧
      s ∈ (run registerStep {} history).requestPubkeys := by
  refine run_of_since (fun r : Registers => s ∈ r.cardPubkeys ∧ s ∈ r.requestPubkeys) ?_ ?_ h
  · intro r cmd hset
    cases cmd <;> try exact hset.elim
    obtain ⟨rfl, hseat⟩ := hset
    simp [registerStep, hseat]
  · intro r cmd hkeys _
    cases cmd <;> simp only [registerStep] <;> try exact hkeys
    all_goals
      split_ifs
      · simp [hkeys]
      · exact hkeys

end

instance (s : SeatId) (history : List RoomCommand) :
    Decidable (SinceLeave s (BindsKeys s) history) :=
  decidableSince registerStep (BindsKeys s) (· ≠ .leave s) {} history

/-! ### Rooms with their history -/

/-- A room and the commands it has handled. -/
structure RecordedRoom (Card : Type) where
  room : RoomState Card
  history : List RoomCommand := []

def recordStep [RsPoker Card] (config : RoomActorConfig) (r : RecordedRoom Card)
    (input : RoomInput Card) : RecordedRoom Card :=
  ⟨roomRunStep config r.room input, r.history ++ [input.2]⟩

/-- The seat is at the table and ready, with an address and both keys, all bound since it last
left. -/
structure Eligible (r : RecordedRoom Card) (s : SeatId) : Prop where
  joined : SinceLeave s (Joins s) r.history
  ready : s ∈ r.room.ready
  address : s ∈ r.room.boundAddresses
  addressSince : SinceLeave s (BindsAddress s) r.history
  cardKey : s ∈ r.room.cardPubkeys
  requestKey : s ∈ r.room.requestPubkeys
  keysSince : SinceLeave s (BindsKeys s) r.history

/-- If this input is a `Ready` that starts a hand, the seats with hole cards are eligible. -/
def DealtInEligible [RsPoker Card] (config : RoomActorConfig) (r : RecordedRoom Card)
    (input : RoomInput Card) : Prop :=
  ∀ seatId, input.2 = .ready seatId → StartsHand input.1 r.room seatId →
    ∀ s, HoldsCards (recordStep config r input).room.state s →
      Eligible (recordStep config r input) s

/-- If this input is a `Ready` that starts a hand, every seat the engine knows is ready, has an
address, and has bound its keys since it last left. -/
def TableEligible [RsPoker Card] (r : RecordedRoom Card) (input : RoomInput Card) : Prop :=
  match input.2 with
  | .ready seatId => StartsHand input.1 r.room seatId → ∀ s ∈ r.room.state.hand.seatedPlayers,
      s ∈ insert seatId r.room.ready ∧ s ∈ r.room.boundAddresses ∧
        SinceLeave s (BindsKeys s) r.history
  | _ => True

instance [RsPoker Card] (r : RecordedRoom Card) (input : RoomInput Card) :
    Decidable (TableEligible r input) := by
  unfold TableEligible
  split <;> infer_instance

section

variable [RsPoker Card]

/-- The registers of the room are those of its history. -/
def Recorded (r : RecordedRoom Card) : Prop := r.room.registers = run registerStep {} r.history

theorem recorded_step (config : RoomActorConfig) (r : RecordedRoom Card) (input : RoomInput Card)
    (h : Recorded r) : Recorded (recordStep config r input) := by
  show (roomStep config input.1 r.room input.2).1.registers =
    run registerStep {} (r.history ++ [input.2])
  rw [roomStep_registers, h, run_concat]

theorem sinceLeave_ready {s seatId : SeatId} {C : Registers → RoomCommand → Prop}
    (hC : ∀ r, ¬ C r (.ready seatId)) {history : List RoomCommand} :
    SinceLeave s C (history ++ [.ready seatId]) ↔ SinceLeave s C history := by
  rw [SinceLeave, since_concat, or_iff_right (hC _)]
  exact and_iff_left nofun

theorem eligible_ready_iff (config : RoomActorConfig) {r : RecordedRoom Card} (hrec : Recorded r)
    {env : RoomEnv Card} {seatId : SeatId} (hseat : seatId ∈ r.room.seated) (s : SeatId) :
    Eligible (recordStep config r (env, .ready seatId)) s ↔
      s ∈ insert seatId r.room.ready ∧ s ∈ r.room.boundAddresses ∧
        SinceLeave s (BindsKeys s) r.history := by
  have hregisters : (recordStep config r (env, .ready seatId)).room.registers =
      { r.room.registers with ready := insert seatId r.room.ready } := by
    show (roomStep config env r.room (.ready seatId)).1.registers = _
    rw [roomStep_registers]
    exact if_pos hseat
  have hready : (recordStep config r (env, .ready seatId)).room.ready = insert seatId r.room.ready :=
    congrArg Registers.ready hregisters
  have haddress : (recordStep config r (env, .ready seatId)).room.boundAddresses =
      r.room.boundAddresses :=
    congrArg Registers.boundAddresses hregisters
  have hcard : (recordStep config r (env, .ready seatId)).room.cardPubkeys = r.room.cardPubkeys :=
    congrArg Registers.cardPubkeys hregisters
  have hrequest : (recordStep config r (env, .ready seatId)).room.requestPubkeys =
      r.room.requestPubkeys :=
    congrArg Registers.requestPubkeys hregisters
  constructor
  · intro h
    refine ⟨hready ▸ h.ready, haddress ▸ h.address, ?_⟩
    exact (sinceLeave_ready fun _ => id).1 h.keysSince
  · rintro ⟨hmem, hbound, hkeys⟩
    have hkept := keys_of_since hkeys
    rw [← hrec] at hkept
    have hat : s ∈ r.room.seated := by
      rcases Finset.mem_insert.1 hmem with rfl | hmem
      · exact hseat
      · have hsub := @ready_subset_seated r.history
        rw [← hrec] at hsub
        exact hsub hmem
    refine ⟨?_, hready ▸ hmem, haddress ▸ hbound, ?_, hcard ▸ hkept.1, hrequest ▸ hkept.2, ?_⟩
    · refine (sinceLeave_ready fun _ => nofun).2 (mem_seated_iff.1 ?_)
      rw [← hrec]
      exact hat
    · refine (sinceLeave_ready fun _ => id).2 (mem_boundAddresses_iff.1 ?_)
      rw [← hrec]
      exact hbound
    · exact (sinceLeave_ready fun _ => id).2 hkeys

/-- At one step: the cards go to the seats of the engine. -/
theorem dealtInEligible_iff (config : RoomActorConfig) {r : RecordedRoom Card} (hrec : Recorded r)
    (input : RoomInput Card) : DealtInEligible config r input ↔ TableEligible r input := by
  obtain ⟨env, cmd⟩ := input
  by_cases hcmd : ∃ seatId, cmd = .ready seatId
  · obtain ⟨seatId, rfl⟩ := hcmd
    have hdealt : StartsHand env r.room seatId → ∀ s,
        (HoldsCards (recordStep config r (env, .ready seatId)).room.state s ↔
          s ∈ r.room.state.hand.seatedPlayers) := by
      intro hstarts s
      obtain ⟨_, hstate, -⟩ := explained_start hstarts
      show HoldsCards (markReady env r.room seatId).state s ↔ _
      rw [hstate]
      exact (holdsCards_dealt (eq_of_snd_ok hstarts.dealt) s).2
    constructor
    · intro h hstarts s hs
      exact (eligible_ready_iff config hrec hstarts.seated s).1
        (h seatId rfl hstarts s ((hdealt hstarts s).2 hs))
    · intro h seatId' heq hstarts s hs
      cases heq
      exact (eligible_ready_iff config hrec hstarts.seated s).2
        (h hstarts s ((hdealt hstarts s).1 hs))
  · refine iff_of_true (fun seatId h => absurd ⟨seatId, h⟩ hcmd) ?_
    unfold TableEligible
    split
    · rename_i seatId h
      exact absurd ⟨seatId, h⟩ hcmd
    · trivial

end

/-- **Only eligible seats are dealt in exactly if every `Ready` that starts a hand finds every seat
of the engine ready, with an address, and with keys bound since it last left**, in every run of a
room. -/
theorem dealt_in_eligible_iff [RsPoker Card] (config : RoomActorConfig) (roomId : RoomId)
    (handId : HandId) (inputs : List (RoomInput Card)) :
    AllSteps (recordStep config) (DealtInEligible config) ⟨RoomState.spawn roomId handId, []⟩
        inputs ↔
      AllSteps (recordStep config) TableEligible ⟨RoomState.spawn roomId handId, []⟩ inputs := by
  have hall : AllSteps (recordStep config) (fun _ _ => True)
      ⟨RoomState.spawn roomId handId, []⟩ inputs :=
    allSteps_of_forall fun _ _ => trivial
  exact hall.iff_of_inv Recorded (fun r input _ => recorded_step config r input)
    (fun r input _ hrec => dealtInEligible_iff config hrec input) rfl

/-- The commands of `openTable` up to the last `Ready`, after others. -/
def tableWith (before : List RoomCommand) : RecordedRoom ByteCard :=
  run (recordStep {}) ⟨RoomState.spawn ⟨0⟩ ⟨0⟩, []⟩
    ((before ++ openTable.dropLast).map fun cmd => (tableEnv, cmd))

/-- A deck long enough for three seats. -/
def longEnv : RoomEnv ByteCard := { tableEnv with deck := List.finRange 52 }

/-- A seat that came and left before the hand is dealt in. -/
theorem left_seat_dealt_in :
    StartsHand longEnv (tableWith [.join 2, .leave 2]).room 1 ∧
      HoldsCards (recordStep {} (tableWith [.join 2, .leave 2]) (longEnv, .ready 1)).room.state 2 ∧
      ¬ DealtInEligible {} (tableWith [.join 2, .leave 2]) (longEnv, .ready 1) := by
  have heval : StartsHand longEnv (tableWith [.join 2, .leave 2]).room 1 ∧
      HoldsCards (recordStep {} (tableWith [.join 2, .leave 2]) (longEnv, .ready 1)).room.state 2 ∧
      2 ∉ (recordStep {} (tableWith [.join 2, .leave 2]) (longEnv, .ready 1)).room.ready := by
    decide +kernel
  exact ⟨heval.1, heval.2.1, fun h => heval.2.2 (h 1 rfl heval.1 2 heval.2.1).ready⟩

/-- Two seats that bind what they need and are ready are dealt in. -/
theorem bound_seats_dealt_in :
    StartsHand tableEnv (tableWith []).room 1 ∧
      DealtInEligible {} (tableWith []) (tableEnv, .ready 1) := by
  have hsteps : StartsHand tableEnv (tableWith []).room 1 ∧
      AllSteps (recordStep {}) TableEligible ⟨RoomState.spawn ⟨0⟩ ⟨0⟩, []⟩
        (([] ++ openTable.dropLast).map (fun cmd => (tableEnv, cmd)) ++ [(tableEnv, .ready 1)]) := by
    decide +kernel
  exact ⟨hsteps.1, ((dealt_in_eligible_iff {} ⟨0⟩ ⟨0⟩ _).2 hsteps.2).at⟩

end HoldemPlatform.Room.Eligibility

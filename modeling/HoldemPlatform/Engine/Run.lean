import HoldemPlatform.Engine.Action
import HoldemPlatform.Lib.Run

/-!
# Runs of the Engine

The engine as a state machine: seats are taken, hands are dealt and actions are applied in any order
and over any number of hands. Two invariants hold in every state so reached: the pot adds up
(`PotInv`), and a seat to act sits at the table of a running hand.
-/

namespace HoldemPlatform.Engine.Run

open HoldemPlatform.Lib.FiniteMap HoldemPlatform.Lib.Run
open HoldemPlatform.Domain.Money HoldemPlatform.Domain.Game
open HoldemPlatform.Engine.State HoldemPlatform.Engine.Deal HoldemPlatform.Engine.Turn
open HoldemPlatform.Engine.Action

variable {Card : Type}

inductive EngineOp (Card : Type) where
  | seatPlayer (seatId : SeatId)
  | deal (newHandId : HandId) (deck : List Card)
  | act (action : PlayerAction)

/-- One operation; a refused one may still leave a changed state. -/
def engineStep [RsPoker Card] (st : EngineState Card) : EngineOp Card → EngineState Card
  | .seatPlayer seatId => st.seatPlayer seatId
  | .deal newHandId deck => (dealNewHandInternalWithDeck st newHandId deck).1
  | .act action => (applyAction st action).1

def Reachable [RsPoker Card] (st : EngineState Card) : Prop :=
  ∃ roomId handNo handId ops, st = run engineStep (EngineState.new roomId handNo handId) ops

/-- What holds in every reachable state. -/
structure EngineInv (st : EngineState Card) : Prop where
  pot : PotInv st
  acting : ∀ s, st.snapshot.actingSeatId = some s →
    s ∈ st.hand.seatedPlayers ∧ st.snapshot.status = .running

theorem total_blinds {sb bb : SeatId} (h : sb ≠ bb) :
    total Chips.asU128 (blinds sb bb) = blindPot.asU128 := by
  have hsb := total_insert Chips.asU128 (∅ : HashMap SeatId Chips) sb DEFAULT_SMALL_BLIND
  have hbb := total_insert Chips.asU128
    (AList.insert sb DEFAULT_SMALL_BLIND (∅ : HashMap SeatId Chips)) bb DEFAULT_BIG_BLIND
  have h0 : weight Chips.asU128 (∅ : HashMap SeatId Chips) sb = 0 := rfl
  have h1 : weight Chips.asU128
      (AList.insert sb DEFAULT_SMALL_BLIND (∅ : HashMap SeatId Chips)) bb = 0 := by
    rw [weight_insert_ne Chips.asU128 _ _ h.symm]
    rfl
  have ht : total Chips.asU128 (∅ : HashMap SeatId Chips) = 0 := rfl
  have hpot : DEFAULT_SMALL_BLIND.asU128 + DEFAULT_BIG_BLIND.asU128 = blindPot.asU128 := rfl
  unfold blinds
  omega

theorem engineInv_new (roomId : RoomId) (handNo : ℕ) (handId : HandId) :
    EngineInv (EngineState.new roomId handNo handId : EngineState Card) :=
  ⟨⟨rfl, rfl⟩, fun _ h => by cases h⟩

theorem potInv_dealtState (st : EngineState Card) (dealing : DealingState Card)
    (newHandId : HandId) {sb bb : SeatId} (first : SeatId) (h : sb ≠ bb) :
    PotInv (dealtState st dealing newHandId sb bb first) :=
  ⟨(total_blinds h).symm, rfl⟩

theorem seatedPlayers_nextHandNo (st : EngineState Card) :
    (nextHandNo st).hand = st.hand := by
  unfold nextHandNo
  split_ifs <;> rfl

theorem seatedPlayers_dealtState (st : EngineState Card) (dealing : DealingState Card)
    (newHandId : HandId) (sb bb first : SeatId) :
    (dealtState st dealing newHandId sb bb first).hand.seatedPlayers = st.hand.seatedPlayers := by
  show (nextHandNo st).hand.seatedPlayers = _
  rw [seatedPlayers_nextHandNo]

theorem foldedSeats_dealtState (st : EngineState Card) (dealing : DealingState Card)
    (newHandId : HandId) (sb bb first : SeatId) :
    (dealtState st dealing newHandId sb bb first).hand.foldedSeats = st.hand.foldedSeats := by
  show (nextHandNo st).hand.foldedSeats = _
  rw [seatedPlayers_nextHandNo]

theorem allInSeats_dealtState (st : EngineState Card) (dealing : DealingState Card)
    (newHandId : HandId) (sb bb first : SeatId) :
    (dealtState st dealing newHandId sb bb first).hand.allInSeats = st.hand.allInSeats := by
  show (nextHandNo st).hand.allInSeats = _
  rw [seatedPlayers_nextHandNo]

/-- **The engine keeps its invariants.** -/
theorem engineInv_step [RsPoker Card] (st : EngineState Card) (op : EngineOp Card)
    (h : EngineInv st) : EngineInv (engineStep st op) := by
  cases op with
  | seatPlayer seatId =>
    exact ⟨h.pot.congr rfl rfl, fun s hs =>
      ⟨Finset.mem_insert_of_mem (h.acting s hs).1, (h.acting s hs).2⟩⟩
  | deal newHandId deck =>
    rw [engineStep]
    rcases deal_cases st newHandId deck with ⟨e, he⟩ | ⟨dealing, sb, bb, first, hd, hbs, -⟩
    · rw [he]
      exact h
    · rw [hd]
      refine ⟨potInv_dealtState st dealing newHandId first hbs.ne, fun s hs => ?_⟩
      rw [seatedPlayers_dealtState]
      cases hs
      exact ⟨mem_sortedSeats.1 hbs.first_mem, rfl⟩
  | act action =>
    rw [engineStep]
    rcases applyAction_cases h.pot action with ⟨hok, st', result, happ, hacc⟩ | ⟨-, round, e, happ⟩
    · rw [happ]
      refine ⟨hacc.inv, fun s hs => ?_⟩
      obtain ⟨hactive, hstatus⟩ := hacc.acting s hs
      exact ⟨(Finset.mem_filter.1 hactive).1, hstatus.trans (h.acting _ hok.turn).2⟩
    · rw [happ]
      exact ⟨h.pot.congr rfl rfl, h.acting⟩

theorem engineInv_run [RsPoker Card] {st : EngineState Card} (h : EngineInv st)
    (ops : List (EngineOp Card)) : EngineInv (run engineStep st ops) :=
  run_inv EngineInv engineInv_step ops h

theorem engineInv_of_reachable [RsPoker Card] {st : EngineState Card} (h : Reachable st) :
    EngineInv st := by
  obtain ⟨roomId, handNo, handId, ops, rfl⟩ := h
  exact engineInv_run (engineInv_new roomId handNo handId) ops

/-- **The pot adds up in every run**: main pot, shown total and the exact sum of what the seats put
in are one amount, whatever was accepted or refused on the way. -/
theorem pot_adds_up [RsPoker Card] (roomId : RoomId) (handNo : ℕ) (handId : HandId)
    (ops : List (EngineOp Card)) :
    let st := run engineStep (EngineState.new roomId handNo handId) ops
    st.pot.mainPot = st.snapshot.potTotal ∧
      st.snapshot.potTotal.asU128 = ∑ s : SeatId, st.contribution s := by
  intro st
  have hpot : PotInv st := (engineInv_run (engineInv_new roomId handNo handId) ops).pot
  refine ⟨hpot.potTotal.symm, ?_⟩
  calc st.snapshot.potTotal.asU128 = st.pot.mainPot.asU128 := by rw [hpot.potTotal]
    _ = total Chips.asU128 st.pot.playerContributions := hpot.mainPot
    _ = ∑ s : SeatId, st.contribution s := total_eq_sum _ _

/-! ### A table of two -/

def headsUpAction (actionSeq : ℕ) (seatId : SeatId) (actionType : ActionType)
    (amount : Option Chips) : PlayerAction :=
  { roomId := ⟨0⟩, handId := ⟨1⟩, actionSeq, seatId, actionType, amount }

/-- The first hand of two seats, just dealt: seat `0` has the button, the small blind and the turn. -/
def headsUp : EngineState ByteCard :=
  (dealNewHandInternalWithDeck
    (run engineStep (EngineState.new ⟨0⟩ 1 ⟨0⟩) ([0, 1].map .seatPlayer)) ⟨1⟩ royalDeck).1

theorem deal_headsUp : dealNewHandInternalWithDeck
    (run engineStep (EngineState.new ⟨0⟩ 1 ⟨0⟩) ([0, 1].map .seatPlayer)) ⟨1⟩ royalDeck =
      (headsUp, .ok ()) := by
  refine eq_of_snd_ok ?_
  decide +kernel

theorem potInv_headsUp : PotInv headsUp :=
  (engineInv_run (engineInv_new ⟨0⟩ 1 ⟨0⟩)
    ([.seatPlayer 0, .seatPlayer 1, .deal ⟨1⟩ royalDeck] : List (EngineOp ByteCard))).pot

end HoldemPlatform.Engine.Run

import HoldemPlatform.Engine.Copies
import HoldemPlatform.Engine.DealtCards

/-!
# The Board and the Street

A street shows its cards when it opens, and the showdown after the river shows all five. One way to the
showdown shows nothing: when an action leaves only all-in seats in the hand and one of them has not acted
on the street, `advance_turn` goes to the showdown with the cards that happen to lie on the table
(`RunsOut`). The board matches the street along a run exactly if that never happens before the river.
-/

namespace HoldemPlatform.Engine.Board

open HoldemPlatform.Lib.Run HoldemPlatform.Domain.Money HoldemPlatform.Domain.Game
open HoldemPlatform.Engine.State HoldemPlatform.Engine.Deal HoldemPlatform.Engine.DealtCards
open HoldemPlatform.Engine.Turn HoldemPlatform.Engine.Action HoldemPlatform.Engine.Round
open HoldemPlatform.Engine.Run

variable {Card : Type}

/-- Once a hand was dealt, the cards shown are those of the street. -/
def BoardMatches [RsPoker Card] (st : EngineState Card) : Prop :=
  ∀ dealing, st.dealing = some dealing → st.snapshot.boardCards =
    (dealing.boardCards.take (revealCount st.snapshot.street)).map RsPoker.toU8

instance [RsPoker Card] (st : EngineState Card) : Decidable (BoardMatches st) :=
  match h : st.dealing with
  | none => .isTrue fun dealing hd => by rw [h] at hd; cases hd
  | some dealing =>
    decidable_of_iff (st.snapshot.boardCards =
        (dealing.boardCards.take (revealCount st.snapshot.street)).map RsPoker.toU8)
      ⟨fun hboard d hd => by rw [h] at hd; cases hd; exact hboard, fun hall => hall dealing h⟩

def activeAfter (st : EngineState Card) (action : PlayerAction) : Finset SeatId :=
  st.hand.seatedPlayers.filter (· ∉ foldedAfter st action)

/-- With board cards to come, the action leaves only all-in seats in the hand, and one of them has not
acted on the street. -/
structure RunsOut (st : EngineState Card) (action : PlayerAction) : Prop where
  early : revealCount st.snapshot.street < 5
  two : 2 ≤ (activeAfter st action).card
  allIn : ∀ s ∈ activeAfter st action, s ∈ allInAfter st action
  waiting : ∃ s ∈ activeAfter st action, s ∉ actedAfter st action

/-- What holds of the cards in every reachable state. -/
structure BoardInv (st : EngineState Card) : Prop where
  engine : EngineInv st
  five : ∀ dealing, st.dealing = some dealing → dealing.boardCards.length = 5
  dealt : ∀ s, st.snapshot.actingSeatId = some s → ∃ dealing, st.dealing = some dealing

theorem boardInv_new (roomId : RoomId) (handNo : ℕ) (handId : HandId) :
    BoardInv (EngineState.new roomId handNo handId : EngineState Card) :=
  ⟨engineInv_new roomId handNo handId, nofun, nofun⟩

/-- Among all-in seats a round is open only because somebody has not acted. -/
theorem not_roundComplete_iff {st mid : EngineState Card} {action : PlayerAction}
    (hmid : BeforeTurn st action mid) (hall : ∀ s ∈ activeAfter st action, s ∈ allInAfter st action) :
    ¬ RoundComplete mid ↔ ∃ s ∈ activeAfter st action, s ∉ actedAfter st action := by
  have hactive : activeSeats mid = activeAfter st action := hmid.activeSeats
  unfold RoundComplete SeatDone
  rw [hactive, hmid.round, hmid.hand]
  push Not
  refine exists_congr fun s => and_congr_right fun hs => ⟨fun h hacted => ?_, fun h hacted => absurd hacted h⟩
  exact (h hacted).1 (hall s hs)

/-- The showdown without a seat that can act, seen from the state before the action. -/
theorem runsOut_iff {st mid : EngineState Card} {action : PlayerAction} (hmid : BeforeTurn st action mid) :
    RunsOut st action ↔ revealCount st.snapshot.street < 5 ∧ 2 ≤ (activeSeats mid).card ∧
      ¬ RoundComplete mid ∧ actionableSeats mid = ∅ := by
  have hactive : activeSeats mid = activeAfter st action := hmid.activeSeats
  have hnobody : actionableSeats mid = ∅ ↔ ∀ s ∈ activeAfter st action, s ∈ allInAfter st action := by
    rw [Finset.eq_empty_iff_forall_notMem]
    refine forall_congr' fun s => ?_
    rw [mem_actionableSeats, hactive, hmid.hand, not_and_not_right]
  rw [hnobody, hactive]
  constructor
  · intro h
    exact ⟨h.early, h.two, (not_roundComplete_iff hmid h.allIn).2 h.waiting, h.allIn⟩
  · rintro ⟨hearly, htwo, hround, hall⟩
    exact ⟨hearly, htwo, hall, (not_roundComplete_iff hmid hall).1 hround⟩

section

variable [RsPoker Card] {st : EngineState Card}

theorem boardInv_step (st : EngineState Card) (op : EngineOp Card) (h : BoardInv st) :
    BoardInv (engineStep st op) := by
  have hengine := engineInv_step st op h.engine
  cases op with
  | seatPlayer seatId => exact ⟨hengine, h.five, h.dealt⟩
  | deal newHandId deck =>
    rw [engineStep] at hengine ⊢
    rcases deal_details st newHandId deck with ⟨e, he⟩ | ⟨dealing, sb, bb, first, hd, hdealt⟩
    · rw [he]
      exact h
    · rw [hd] at hengine ⊢
      refine ⟨hengine, ?_, fun _ _ => ⟨dealing, rfl⟩⟩
      rintro _ ⟨⟩
      exact (dealtFrom_dealCards (nodup_sortedSeats _) hdealt.enough hdealt.cards).length_boardCards
  | act action =>
    rw [engineStep] at hengine ⊢
    rcases applyAction_cases h.engine.pot action with ⟨hok, st', result, happ, hacc⟩ | ⟨-, round, e, happ⟩
    · rw [happ] at hengine ⊢
      refine ⟨hengine, fun dealing hdealing => h.five dealing (hacc.dealing ▸ hdealing), fun _ _ => ?_⟩
      obtain ⟨dealing, hdealing⟩ := h.dealt _ hok.turn
      exact ⟨dealing, hacc.dealing.trans hdealing⟩
    · rw [happ] at hengine ⊢
      exact ⟨hengine, h.five, h.dealt⟩

/-! ### The writes of the street -/

theorem boardMatches_openStreet (st : EngineState Card) (street : Street) (acting : Option SeatId) :
    BoardMatches (openStreet st street acting) := by
  intro dealing hdealing
  show shownBoard st (revealCount street) = _
  unfold shownBoard
  rw [show st.dealing = some dealing from hdealing]
  rfl

theorem boardMatches_fullBoard (hfive : ∀ dealing, st.dealing = some dealing → dealing.boardCards.length = 5) :
    BoardMatches (goToShowdown st (fullBoard st)) := by
  intro dealing hdealing
  show fullBoard st = (dealing.boardCards.take 5).map RsPoker.toU8
  unfold fullBoard
  rw [show st.dealing = some dealing from hdealing, List.take_of_length_le (hfive dealing hdealing).le]

/-- The showdown that shows no new card matches only if all of them are shown already. -/
theorem boardMatches_sameBoard_iff {dealing : DealingState Card} (hdealing : st.dealing = some dealing)
    (hfive : dealing.boardCards.length = 5) (hgood : BoardMatches st) :
    BoardMatches (goToShowdown st st.snapshot.boardCards) ↔ 5 ≤ revealCount st.snapshot.street := by
  have hboard := hgood dealing hdealing
  constructor
  · intro hmatch
    have hfull := hmatch dealing hdealing
    have hlen : st.snapshot.boardCards.length = 5 := by
      rw [show st.snapshot.boardCards = (dealing.boardCards.take 5).map RsPoker.toU8 from hfull,
        List.length_map, List.length_take, hfive]
      rfl
    rw [hboard, List.length_map, List.length_take] at hlen
    omega
  · intro hlate d hd
    obtain rfl : dealing = d := Option.some.inj (hdealing.symm.trans hd)
    show st.snapshot.boardCards = (dealing.boardCards.take 5).map RsPoker.toU8
    rw [hboard, List.take_of_length_le (by omega), List.take_of_length_le hfive.le]

/-! ### One action -/

/-- **An action keeps the board with the street exactly if it does not run the hand out.** -/
theorem boardMatches_act_iff (hinv : BoardInv st) (hgood : BoardMatches st) (action : PlayerAction) :
    BoardMatches (applyAction st action).1 ↔ (Accepts st action → ¬ RunsOut st action) := by
  rw [accepts_iff hinv.engine.pot]
  by_cases hok : Acceptable st action
  swap
  · refine iff_of_true ?_ fun h => absurd h hok
    rcases applyAction_refused hinv.engine.pot hok with ⟨-, e, happ⟩ | ⟨-, e, happ⟩
    · rwa [happ]
    · rw [happ, placedBets_eq]
      exact hgood
  obtain ⟨mid, hmid, happ⟩ := applyAction_accepted hinv.engine.pot hok
  have hstreet : mid.snapshot.street = st.snapshot.street := by rw [hmid.snapshot]
  have hstay : BoardMatches mid := by
    unfold BoardMatches
    rw [hmid.snapshot, hmid.dealing]
    exact hgood
  rw [happ, imp_iff_right hok, runsOut_iff hmid]
  have hstep := turn_step mid action.seatId
  generalize advanceTurn mid action.seatId = r at hstep
  cases hstep with
  | closed hone => exact iff_of_true hstay fun h => by omega
  | river _ hround =>
    refine iff_of_true (boardMatches_fullBoard ?_) fun h => h.2.2.1 hround
    rw [hmid.dealing]
    exact hinv.five
  | street _ hround street seat =>
    exact iff_of_true (boardMatches_openStreet mid street (some seat)) fun h => h.2.2.1 hround
  | nobody htwo hround hnone =>
    obtain ⟨dealing, hdealing⟩ := hinv.dealt _ hok.turn
    have hnot : ¬ (revealCount st.snapshot.street < 5 ∧ 2 ≤ (activeSeats mid).card ∧
        ¬ RoundComplete mid ∧ actionableSeats mid = ∅) ↔ 5 ≤ revealCount st.snapshot.street := by
      simp [htwo, hround, hnone]
    rw [hnot, ← hstreet]
    exact boardMatches_sameBoard_iff (hmid.dealing.trans hdealing) (hinv.five dealing hdealing) hstay
  | pass _ _ seat hseat =>
    refine iff_of_true hstay fun h => ?_
    have hact := hseat.1
    rw [h.2.2.2] at hact
    exact Finset.notMem_empty seat hact

theorem boardMatches_step_iff (st : EngineState Card) (op : EngineOp Card) (hinv : BoardInv st)
    (hgood : BoardMatches st) : BoardMatches (engineStep st op) ↔
      ∀ action, op = .act action → Accepts st action → ¬ RunsOut st action := by
  cases op with
  | seatPlayer seatId => exact iff_of_true hgood fun _ h => by cases h
  | deal newHandId deck =>
    refine iff_of_true ?_ fun _ h => by cases h
    rw [engineStep]
    rcases deal_cases st newHandId deck with ⟨e, he⟩ | ⟨dealing, sb, bb, first, hd, -, -⟩
    · rwa [he]
    · rw [hd]
      rintro _ ⟨⟩
      rfl
  | act action =>
    rw [engineStep, boardMatches_act_iff hinv hgood]
    refine ⟨?_, fun h => h action rfl⟩
    rintro h _ ⟨⟩
    exact h

/-- **The board matches the street in all states of a run exactly if no accepted action runs the hand
out before the river.** -/
theorem board_matches_iff (roomId : RoomId) (handNo : ℕ) (handId : HandId) (ops : List (EngineOp Card)) :
    (∀ before after, ops = before ++ after →
      BoardMatches (run engineStep (EngineState.new roomId handNo handId) before)) ↔
    AllSteps engineStep
      (fun st op => ∀ action, op = .act action → Accepts st action → ¬ RunsOut st action)
      (EngineState.new roomId handNo handId) ops :=
  forall_states_iff_allSteps BoardInv BoardMatches boardInv_step boardMatches_step_iff
    (boardInv_new roomId handNo handId) fun _ h => by cases h

end

/-- Both seats are all-in before the flop; the flop opens and seat `1`, though all-in, checks. -/
def allInPreflop : List (EngineOp ByteCard) :=
  [.seatPlayer 0, .seatPlayer 1, .deal ⟨1⟩ royalDeck,
    .act (headsUpAction 1 0 .allIn (some (.ofU128 (10 ^ 15)))),
    .act (headsUpAction 2 1 .allIn (some (.ofU128 (5 * 10 ^ 14)))),
    .act (headsUpAction 3 1 .check none)]

/-- The showdown of that hand shows the three cards of the flop. -/
theorem showdown_shows_flop :
    let st := run engineStep (EngineState.new ⟨0⟩ 1 ⟨0⟩) allInPreflop
    st.snapshot.street = .showdown ∧ st.snapshot.status = .showdown ∧
      st.snapshot.boardCards = [8, 9, 10] ∧ ¬ BoardMatches st := by
  decide +kernel

end HoldemPlatform.Engine.Board

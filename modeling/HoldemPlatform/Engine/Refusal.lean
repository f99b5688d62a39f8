import HoldemPlatform.Engine.Round
import HoldemPlatform.Engine.Run

/-!
# Refused Actions

A refused action should have no effect. The engine writes the bet of a call, a raise or an all-in
before it adds the chips to the pot, and the addition is checked: when the pot does not fit into the
width of an amount the action is refused, but the bet stays. This is the only way in which a refused
action changes the state.
-/

namespace HoldemPlatform.Engine.Refusal

open HoldemPlatform.Lib.Run HoldemPlatform.Domain.Money HoldemPlatform.Domain.Game
open HoldemPlatform.Engine.State HoldemPlatform.Engine.Action HoldemPlatform.Engine.Round
open HoldemPlatform.Engine.Run

variable {Card : Type}

/-- An action that pays chips by the rules writes a higher bet for its seat. -/
theorem seatBet_lt_placedBets {st : EngineState Card} {action : PlayerAction}
    (hplay : Playable st action) (hpaid : 0 < chipsPaid st action) :
    st.seatBet action.seatId < (placedBets st action).seatBet action.seatId := by
  unfold Playable at hplay
  unfold chipsPaid at hpaid
  cases htype : action.actionType with
  | fold => simp [htype] at hpaid
  | check => simp [htype] at hpaid
  | call =>
    have hbet : betTarget st action = some st.bettingRound.currentBet := by
      simp only [betTarget, htype]
    rw [seatBet_placedBets_self hbet, Chips.lt_iff]
    simp only [htype, toCall, Chips.asU128_subOrZero] at hpaid
    omega
  | raiseTo =>
    simp only [htype] at hplay
    obtain ⟨target, hamount, hlt, -⟩ := hplay
    have hbet : betTarget st action = some target := by simp only [betTarget, htype, hamount]
    rwa [seatBet_placedBets_self hbet]
  | allIn =>
    simp only [htype] at hplay
    obtain ⟨target, hamount, hlt⟩ := hplay
    have hbet : betTarget st action = some target := by simp only [betTarget, htype, hamount]
    rwa [seatBet_placedBets_self hbet]

theorem placedBets_ne_of_overflows {st : EngineState Card} {action : PlayerAction}
    (h : Overflows st action) : placedBets st action ≠ st := by
  intro heq
  have hpot := st.pot.mainPot.lt
  have hover := h.overflow
  have hlt := seatBet_lt_placedBets h.playable (by omega)
  rw [heq] at hlt
  exact lt_irrefl _ hlt

/-- **A refused action leaves the whole state as it was exactly if it is not one that follows the
rules of the round and whose chips do not fit into the pot.** -/
theorem refused_unchanged_iff [RsPoker Card] (st : EngineState Card) (hreach : Reachable st)
    (action : PlayerAction) (e : EngineError) (hrefused : (applyAction st action).2 = .error e) :
    (applyAction st action).1 = st ↔ ¬ Overflows st action := by
  have hpot := (engineInv_of_reachable hreach).pot
  have hno : ¬ Acceptable st action := by
    intro hok
    obtain ⟨mid, -, happ⟩ := applyAction_accepted hpot hok
    rw [happ] at hrefused
    cases hrefused
  rcases applyAction_refused hpot hno with ⟨hfit, e, happ⟩ | ⟨hover, e, happ⟩
  · rw [happ]
    exact ⟨fun _ => hfit, fun _ => rfl⟩
  · rw [happ]
    exact ⟨fun heq => absurd heq (placedBets_ne_of_overflows hover), fun h => absurd hover h⟩

theorem reachable_headsUp : Reachable headsUp :=
  ⟨⟨0⟩, 1, ⟨0⟩, [.seatPlayer 0, .seatPlayer 1, .deal ⟨1⟩ royalDeck], rfl⟩

/-- An all-in of the largest amount is refused and yet becomes the current bet. -/
theorem largest_allIn_leaves_bet :
    ∃ e, (applyAction headsUp (headsUpAction 1 0 .allIn (some (.ofU128 (2 ^ 128 - 1))))).2 = .error e ∧
      (applyAction headsUp (headsUpAction 1 0 .allIn (some (.ofU128 (2 ^ 128 - 1))))).1 ≠
        headsUp := by
  have heval : (applyAction headsUp
        (headsUpAction 1 0 .allIn (some (.ofU128 (2 ^ 128 - 1))))).2 = .error (.money .overflow) ∧
      (applyAction headsUp
        (headsUpAction 1 0 .allIn (some (.ofU128 (2 ^ 128 - 1))))).1.bettingRound.currentBet ≠
          headsUp.bettingRound.currentBet := by
    decide +kernel
  exact ⟨_, heval.1, fun heq => heval.2 (by rw [heq])⟩

/-- A check against an open bet is refused and changes nothing. -/
theorem early_check_unchanged :
    (applyAction headsUp (headsUpAction 1 0 .check none)).2 = .error (.domain .actionIllegal) ∧
      (applyAction headsUp (headsUpAction 1 0 .check none)).1 = headsUp := by
  have hrefused : (applyAction headsUp (headsUpAction 1 0 .check none)).2 =
        .error (.domain .actionIllegal) ∧ toCall headsUp 0 ≠ 0 := by
    decide +kernel
  refine ⟨hrefused.1, (refused_unchanged_iff headsUp reachable_headsUp _ _ hrefused.1).2 ?_⟩
  exact fun hover => hrefused.2 hover.playable

end HoldemPlatform.Engine.Refusal

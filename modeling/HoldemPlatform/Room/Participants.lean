import HoldemPlatform.Engine.Showdown
import HoldemPlatform.Room.Effect

/-!
# Who Takes Part in a Hand

The seats of a hand should be those that were dealt hole cards. The engine has one set of seats for
the table and for the hand, and `Join` adds to it at any time. So the two agree throughout exactly if
no new seat joins while a hand is running or in its showdown; a seat without cards is then neither in
the hand nor asked to act, and it cannot win.
-/

namespace HoldemPlatform.Room.Participants

open HoldemPlatform.Lib.Run HoldemPlatform.Domain.Money HoldemPlatform.Domain.Game
open HoldemPlatform.Engine.State HoldemPlatform.Engine.Deal HoldemPlatform.Engine.Turn
open HoldemPlatform.Engine.Action HoldemPlatform.Engine.Run HoldemPlatform.Engine.Showdown
open HoldemPlatform.Room.Actor HoldemPlatform.Room.Effect

variable {Card : Type}

/-- The hand is being played or shown down. -/
def InPlay (st : EngineState Card) : Prop :=
  st.snapshot.status = .running ∨ st.snapshot.status = .showdown

instance (st : EngineState Card) : Decidable (InPlay st) := inferInstanceAs (Decidable (_ ∨ _))

def HoldsCards (st : EngineState Card) (s : SeatId) : Prop :=
  ∃ dealing, st.dealing = some dealing ∧ s ∈ dealing.holeCards

instance (st : EngineState Card) (s : SeatId) : Decidable (HoldsCards st s) :=
  inferInstanceAs (Decidable (∃ dealing ∈ st.dealing, s ∈ dealing.holeCards))

/-- The seat is in the hand, has the turn, or wins a showdown of it. -/
def TakesPart [RsPoker Card] (st : EngineState Card) (s : SeatId) : Prop :=
  s ∈ activeSeats st ∨ st.snapshot.actingSeatId = some s ∨
    ∃ input eligible result, showdownInputFromEngineState st = some input ∧
      evaluateShowdownForEligible input eligible = some result ∧ s ∈ result.winnerSeats

/-- The seats of the hand are those with hole cards, and only those take part. -/
structure ParticipantsFixed [RsPoker Card] (st : EngineState Card) : Prop where
  seats : ∀ s, s ∈ st.hand.seatedPlayers ↔ HoldsCards st s
  takesPart : ∀ s, TakesPart st s → HoldsCards st s

/-- No new seat joins while a hand is in play. -/
def NoLateJoin (st : RoomState Card) : RoomCommand → Prop
  | .join seatId => InPlay st.state → seatId ∈ st.state.hand.seatedPlayers
  | _ => True

section

variable [RsPoker Card]

theorem participantsFixed_iff {st : EngineState Card} (hinv : EngineInv st) :
    ParticipantsFixed st ↔ ∀ s, s ∈ st.hand.seatedPlayers ↔ HoldsCards st s := by
  refine ⟨fun h => h.seats, fun h => ⟨h, ?_⟩⟩
  rintro s (hactive | hturn | ⟨input, eligible, result, hinput, hresult, hwin⟩)
  · exact (h s).1 (mem_activeSeats.1 hactive).1
  · exact (h s).1 (hinv.acting s hturn).1
  · exact revealed_holeCards hinput (winners_revealed hresult s hwin)

theorem holdsCards_dealt {st st' : EngineState Card} {newHandId : HandId} {deck : List Card}
    (h : dealNewHandInternalWithDeck st newHandId deck = (st', .ok ())) (s : SeatId) :
    st'.hand.seatedPlayers = st.hand.seatedPlayers ∧
      (HoldsCards st' s ↔ s ∈ st.hand.seatedPlayers) := by
  obtain ⟨dealing, sb, bb, first, rfl, -, hmem⟩ := deal_ok h
  refine ⟨seatedPlayers_dealtState .., ?_⟩
  rw [← hmem]
  constructor
  · rintro ⟨dealing', hdealing, hs⟩
    cases hdealing
    exact hs
  · exact fun hs => ⟨dealing, rfl, hs⟩

theorem seats_dealt {st : EngineState Card} {newHandId : HandId} {deck : List Card}
    (h : InPlay st → ∀ s, s ∈ st.hand.seatedPlayers ↔ HoldsCards st s) :
    InPlay (dealNewHandInternalWithDeck st newHandId deck).1 →
      ∀ s, s ∈ (dealNewHandInternalWithDeck st newHandId deck).1.hand.seatedPlayers ↔
        HoldsCards (dealNewHandInternalWithDeck st newHandId deck).1 s := by
  rcases deal_cases st newHandId deck with ⟨e, he⟩ | ⟨_, _, _, _, hd, -, -⟩
  · rwa [he]
  · rw [hd]
    intro _ s
    obtain ⟨hseats, hcards⟩ := holdsCards_dealt hd s
    rw [hseats, hcards]

theorem seats_applied {st : EngineState Card} {action : PlayerAction} (hinv : EngineInv st)
    (h : InPlay st → ∀ s, s ∈ st.hand.seatedPlayers ↔ HoldsCards st s) :
    InPlay (applyAction st action).1 → ∀ s, s ∈ (applyAction st action).1.hand.seatedPlayers ↔
      HoldsCards (applyAction st action).1 s := by
  rcases applyAction_cases hinv.pot action with ⟨hok, st', result, happ, hacc⟩ | ⟨-, round, e, happ⟩
  · rw [happ]
    intro _ s
    rw [HoldsCards, hacc.seatedPlayers, hacc.dealing]
    exact h (.inl (hinv.acting _ hok.turn).2) s
  · rw [happ]
    exact h

/-- The seats of the hand in every state of a room: only a late `Join` can break them. -/
theorem participants_step_iff (config : RoomActorConfig) {st : RoomState Card}
    (input : RoomInput Card) (hinv : EngineInv st.state)
    (hgood : InPlay st.state → ParticipantsFixed st.state) :
    (InPlay (roomRunStep config st input).state →
      ParticipantsFixed (roomRunStep config st input).state) ↔ NoLateJoin st input.2 := by
  obtain ⟨env, cmd⟩ := input
  have hinv' : EngineInv (roomRunStep config st (env, cmd)).state :=
    engineInv_roomStep config cmd hinv
  have heffect : HandEffect env st cmd (roomRunStep config st (env, cmd)).state :=
    roomStep_effect config cmd
  rw [participantsFixed_iff hinv']
  have hseats : InPlay st.state → ∀ s, s ∈ st.state.hand.seatedPlayers ↔ HoldsCards st.state s :=
    fun hplay => (hgood hplay).seats
  by_cases hjoin : ∃ seatId, cmd = .join seatId
  · obtain ⟨seatId, rfl⟩ := hjoin
    show (InPlay st.state → ∀ s, s ∈ insert seatId st.state.hand.seatedPlayers ↔
      HoldsCards st.state s) ↔ (InPlay st.state → seatId ∈ st.state.hand.seatedPlayers)
    refine forall_congr' fun hplay => ?_
    constructor
    · intro h
      rw [hseats hplay, ← h]
      exact Finset.mem_insert_self _ _
    · intro hmem s
      rw [Finset.insert_eq_of_mem hmem]
      exact hseats hplay s
  · have hcond : NoLateJoin st cmd := by
      unfold NoLateJoin
      split
      · rename_i seatId
        exact absurd ⟨seatId, rfl⟩ hjoin
      · trivial
    refine ⟨fun _ => hcond, fun _ => ?_⟩
    generalize (roomRunStep config st (env, cmd)).state = state at heffect
    cases heffect with
    | same => exact hseats
    | seat seatId h => exact absurd ⟨seatId, h⟩ hjoin
    | deal => exact seats_dealt hseats
    | applied => exact seats_applied hinv hseats
    | aborted => exact fun hplay => by rcases hplay with h | h <;> cases h
    | completed => exact fun hplay => by rcases hplay with h | h <;> cases h

end

/-- **The participants of every hand are fixed at its deal exactly if no new seat joins while a hand
is in play**, in every run of a room. -/
theorem participants_fixed_iff [RsPoker Card] (config : RoomActorConfig) (roomId : RoomId)
    (handId : HandId) (inputs : List (RoomInput Card)) :
    (∀ before after, inputs = before ++ after →
        InPlay (run (roomRunStep config) (RoomState.spawn roomId handId) before).state →
        ParticipantsFixed
          (run (roomRunStep config) (RoomState.spawn roomId handId) before).state) ↔
      AllSteps (roomRunStep config) (fun st input => NoLateJoin st input.2)
        (RoomState.spawn roomId handId) inputs := by
  refine forall_states_iff_allSteps (fun st : RoomState Card => EngineInv st.state)
    (fun st : RoomState Card => InPlay st.state → ParticipantsFixed st.state)
    (fun st input h => engineInv_roomStep config input.2 h)
    (fun st input hinv hgood => participants_step_iff config input hinv hgood)
    (engineInv_spawn roomId handId) ?_
  intro hplay
  rcases hplay with h | h <;> cases h

/-- A third seat joins the table while its hand is running. -/
def joinedTable (seatId : SeatId) : List (RoomInput ByteCard) :=
  (openTable ++ [RoomCommand.join seatId]).map fun cmd => (tableEnv, cmd)

/-- A seat that joins during a hand is counted as one of it. -/
theorem late_join_counted :
    InPlay (run (roomRunStep {}) (RoomState.spawn ⟨0⟩ ⟨0⟩) (joinedTable 2)).state ∧
      ¬ ParticipantsFixed
        (run (roomRunStep {}) (RoomState.spawn ⟨0⟩ ⟨0⟩) (joinedTable 2)).state := by
  have heval : InPlay (run (roomRunStep {}) (RoomState.spawn ⟨0⟩ ⟨0⟩) (joinedTable 2)).state ∧
      2 ∈ activeSeats (run (roomRunStep {}) (RoomState.spawn ⟨0⟩ ⟨0⟩) (joinedTable 2)).state ∧
      ¬ HoldsCards (run (roomRunStep {}) (RoomState.spawn ⟨0⟩ ⟨0⟩) (joinedTable 2)).state 2 := by
    decide +kernel
  exact ⟨heval.1, fun hfixed => heval.2.2 (hfixed.takesPart 2 (.inl heval.2.1))⟩

instance (st : RoomState Card) : ∀ cmd, Decidable (NoLateJoin st cmd) := by
  intro cmd
  unfold NoLateJoin
  split <;> infer_instance

/-- A seat of the hand may join again. -/
theorem rejoin_keeps_participants :
    ParticipantsFixed (run (roomRunStep {}) (RoomState.spawn ⟨0⟩ ⟨0⟩) (joinedTable 1)).state := by
  have hsteps : AllSteps (roomRunStep {}) (fun st input => NoLateJoin st input.2)
        (RoomState.spawn ⟨0⟩ ⟨0⟩) (joinedTable 1) ∧
      InPlay (run (roomRunStep {}) (RoomState.spawn ⟨0⟩ ⟨0⟩) (joinedTable 1)).state := by
    decide +kernel
  exact (participants_fixed_iff {} ⟨0⟩ ⟨0⟩ (joinedTable 1)).2 hsteps.1 _ []
    (List.append_nil _).symm hsteps.2

end HoldemPlatform.Room.Participants

import HoldemPlatform.Engine.Showdown

/-!
# The Settlement Plan

The pure half of the settlement service: rake, the split of a pot among its winners, the awards of
all pots, and the apportionment of what is left after the rake by largest remainders.
`build_settlement_plan_from_showdown` feeds it the pot layers of an engine state and the winners the
showdown finds for each layer.
-/

namespace HoldemPlatform.Settlement.Plan

open HoldemPlatform.Lib.FiniteMap HoldemPlatform.Domain.Money HoldemPlatform.Domain.Game
open HoldemPlatform.Engine.State HoldemPlatform.Engine.PotLayers HoldemPlatform.Engine.Showdown

inductive SettlementError where
  | ledger (e : String)
  | money (e : MoneyError)
  | invalidPotAward (e : String)
  | walletAdapter (e : String)
  | keyDecrypt (e : String)
  | invalidRakePolicy (e : String)
deriving DecidableEq

def SettlementError.text : SettlementError → String
  | .ledger e => "ledger error: " ++ e
  | .money e => "money error: " ++ moneyErrorText e
  | .invalidPotAward e => "invalid pot award: " ++ e
  | .walletAdapter e => "wallet adapter error: " ++ e
  | .keyDecrypt e => "key decrypt error: " ++ e
  | .invalidRakePolicy e => "invalid rake policy: " ++ e

structure SettlementPayout where
  seatId : SeatId
  amount : Chips
deriving DecidableEq

structure SettlementPlan where
  roomId : RoomId
  handId : HandId
  rakeAmount : Chips
  payouts : List SettlementPayout
deriving DecidableEq

structure PotAwardInput where
  amount : Chips
  eligibleSeats : List SeatId
  winnerSeats : List SeatId
deriving DecidableEq

structure RakePolicy where
  rakeBps : ℕ
deriving DecidableEq

/-- `a.saturating_mul(b)` on `u128`. -/
def saturatingMul (a b : ℕ) : ℕ := min (a * b) (2 ^ 128 - 1)

/-- `rake_amount_for`: rounded down to whole chips. -/
def RakePolicy.rakeAmountFor (policy : RakePolicy) (potTotal : Chips) :
    Except SettlementError Chips :=
  if 10000 < policy.rakeBps then
    .error (.invalidRakePolicy ("rake_bps=" ++ toString policy.rakeBps ++ " exceeds 10000"))
  else .ok (.ofU128 (saturatingMul potTotal.asU128 policy.rakeBps / 10000))

/-- `split_amount_deterministic`: the first seats get the remainder, one chip each. -/
def splitAmountDeterministic (amount : Chips) (winners : List SeatId) : List SettlementPayout :=
  let base := amount.asU128 / winners.length
  let remainder := amount.asU128 % winners.length
  winners.zipIdx.map fun w =>
    { seatId := w.1, amount := .ofU128 (base + if w.2 < remainder then 1 else 0) }

def sortDedup (seats : List SeatId) : List SeatId := (seats.insertionSort (· ≤ ·)).dedup

/-- The payouts of one pot are added to what the seats have so far. -/
def addPayouts : HashMap SeatId Chips → List SettlementPayout →
    Except SettlementError (HashMap SeatId Chips)
  | gross, [] => .ok gross
  | gross, payout :: rest =>
    match ((gross.lookup payout.seatId).getD 0).checkedAdd payout.amount with
    | .error e => .error (.money e)
    | .ok next => addPayouts (gross.insert payout.seatId next) rest

def awardPots : HashMap SeatId Chips → List PotAwardInput →
    Except SettlementError (HashMap SeatId Chips)
  | gross, [] => .ok gross
  | gross, pot :: pots =>
    if pot.amount = 0 then awardPots gross pots
    else if sortDedup pot.winnerSeats = [] then awardPots gross pots
    else if ¬ ∀ seat ∈ sortDedup pot.winnerSeats, seat ∈ sortDedup pot.eligibleSeats then
      .error (.invalidPotAward "winner_seats must be subset of eligible_seats")
    else
      match addPayouts gross (splitAmountDeterministic pot.amount (sortDedup pot.winnerSeats)) with
      | .error e => .error e
      | .ok gross' => awardPots gross' pots

def checkedTotal : Chips → List SettlementPayout → Except MoneyError Chips
  | acc, [] => .ok acc
  | acc, payout :: rest =>
    match acc.checkedAdd payout.amount with
    | .error e => .error e
    | .ok acc' => checkedTotal acc' rest

/-- A seat, the rounded-down share and the remainder of its division. -/
structure Row where
  seatId : SeatId
  share : ℕ
  rem : ℕ
deriving DecidableEq

/-- The shares before the remainders are handed out. -/
def floorRow (target grossTotal : ℕ) (p : SettlementPayout) : Row :=
  let weighted := saturatingMul p.amount.asU128 target
  { seatId := p.seatId, share := weighted / grossTotal, rem := weighted % grossTotal }

/-- Largest remainder first, then the lower seat. -/
def byRemainder (a b : Row) : Prop := b.rem < a.rem ∨ (a.rem = b.rem ∧ a.seatId ≤ b.seatId)

instance : DecidableRel byRemainder := fun a b =>
  inferInstanceAs (Decidable (b.rem < a.rem ∨ (a.rem = b.rem ∧ a.seatId ≤ b.seatId)))

/-- One more chip for each of the first `extra` rows. -/
def handOut : ℕ → List Row → List Row
  | 0, rows => rows
  | _ + 1, [] => []
  | extra + 1, row :: rows =>
    { row with share := saturatingAdd 128 row.share 1 } :: handOut extra rows

def apportionByWeight (gross : List SettlementPayout) (targetTotal : Chips) :
    List SettlementPayout :=
  if gross = [] then []
  else
    let grossTotal := (gross.map fun p => p.amount.asU128).sum % 2 ^ 128
    if grossTotal = 0 then []
    else
      let target := targetTotal.asU128
      let rows := gross.map (floorRow target grossTotal)
      let floorSum := rows.foldl (fun acc row => saturatingAdd 128 acc row.share) 0
      let rows := handOut (target - floorSum) (rows.insertionSort byRemainder)
      ((rows.insertionSort fun a b => a.seatId ≤ b.seatId).filter fun row => 0 < row.share).map
        fun row => { seatId := row.seatId, amount := .ofU128 row.share }

def grossPayouts (grossBySeat : HashMap SeatId Chips) : List SettlementPayout :=
  ((pairs grossBySeat).map fun p => SettlementPayout.mk p.1 p.2).insertionSort
    fun a b => a.seatId ≤ b.seatId

/-- The plan of what the seats won: the rake, and the shares of the rest. -/
def planOfGross (roomId : RoomId) (handId : HandId) (rakePolicy : RakePolicy)
    (grossPayouts : List SettlementPayout) : Except SettlementError SettlementPlan :=
  match checkedTotal 0 grossPayouts with
  | .error e => .error (.money e)
  | .ok grossTotal =>
    if grossTotal = 0 then .ok { roomId, handId, rakeAmount := 0, payouts := [] }
    else
      match rakePolicy.rakeAmountFor grossTotal with
      | .error e => .error e
      | .ok rakeAmount =>
        match grossTotal.checkedSub rakeAmount with
        | .error e => .error (.money e)
        | .ok distributable =>
          .ok { roomId, handId, rakeAmount,
                payouts := apportionByWeight grossPayouts distributable }

def buildPlanFromPotAwards (roomId : RoomId) (handId : HandId) (pots : List PotAwardInput)
    (rakePolicy : RakePolicy) : Except SettlementError SettlementPlan :=
  match awardPots ∅ pots with
  | .error e => .error e
  | .ok grossBySeat => planOfGross roomId handId rakePolicy (grossPayouts grossBySeat)

/-- `build_plan_from_winners`, the plan of a single pot. -/
def buildPlanFromWinners (roomId : RoomId) (handId : HandId) (potTotal : Chips)
    (winnerSeats : List SeatId) (rakePolicy : RakePolicy) :
    Except SettlementError SettlementPlan :=
  if sortDedup winnerSeats = [] then .ok { roomId, handId, rakeAmount := 0, payouts := [] }
  else
    match rakePolicy.rakeAmountFor potTotal with
    | .error e => .error e
    | .ok rakeAmount =>
      match potTotal.checkedSub rakeAmount with
      | .error e => .error (.money e)
      | .ok distributable =>
        .ok { roomId, handId, rakeAmount,
              payouts := splitAmountDeterministic distributable (sortDedup winnerSeats) }

variable {Card : Type} [RsPoker Card]

/-- The award of each layer goes to the winners the showdown finds among its eligible seats. -/
def layerAwards (input : ShowdownInput Card) : List PotLayer → Except String (List PotAwardInput)
  | [] => .ok []
  | layer :: layers =>
    if layer.amount = 0 then layerAwards input layers
    else
      match evaluateShowdownForEligible input (some layer.eligibleSeats) with
      | none => .error "unable to evaluate showdown for pot layer"
      | some showdown =>
        match layerAwards input layers with
        | .error e => .error e
        | .ok awards =>
          .ok ({ amount := layer.amount, eligibleSeats := layer.eligibleSeats,
                 winnerSeats := showdown.winnerSeats } :: awards)

def buildSettlementPlanFromShowdown (st : EngineState Card) (input : ShowdownInput Card)
    (rakePolicy : RakePolicy) : Except String SettlementPlan :=
  if potLayers st = [] ∧ 0 < st.snapshot.potTotal.asU128 then
    .error "pot_total > 0 but no pot layers derived"
  else
    match layerAwards input (potLayers st) with
    | .error e => .error e
    | .ok potAwards =>
      match buildPlanFromPotAwards st.snapshot.roomId st.snapshot.handId potAwards rakePolicy with
      | .error e => .error e.text
      | .ok plan => .ok plan

/-! ### What a plan names -/

theorem map_seatId_handOut : ∀ (extra : ℕ) (rows : List Row),
    (handOut extra rows).map Row.seatId = rows.map Row.seatId
  | 0, _ => rfl
  | _ + 1, [] => rfl
  | extra + 1, row :: rows => by
    simp only [handOut, List.map_cons, map_seatId_handOut extra rows]

theorem nodup_apportionByWeight {gross : List SettlementPayout} (target : Chips)
    (h : (gross.map SettlementPayout.seatId).Nodup) :
    ((apportionByWeight gross target).map SettlementPayout.seatId).Nodup := by
  unfold apportionByWeight
  split_ifs with hnil
  · exact List.nodup_nil
  dsimp only
  split_ifs with hzero
  · exact List.nodup_nil
  rw [List.map_map]
  show (List.map Row.seatId _).Nodup
  refine (List.filter_sublist.map Row.seatId).nodup ?_
  rw [((List.perm_insertionSort _ _).map Row.seatId).nodup_iff, map_seatId_handOut,
    ((List.perm_insertionSort _ _).map Row.seatId).nodup_iff, List.map_map]
  exact h

/-- A plan pays each seat once, for the hand it was built for. -/
structure PlanFor (roomId : RoomId) (handId : HandId) (plan : SettlementPlan) : Prop where
  roomId : plan.roomId = roomId
  handId : plan.handId = handId
  seats : (plan.payouts.map SettlementPayout.seatId).Nodup

theorem nodup_payoutSeats (gross : HashMap SeatId Chips) :
    ((grossPayouts gross).map SettlementPayout.seatId).Nodup := by
  rw [grossPayouts, ((List.perm_insertionSort _ _).map SettlementPayout.seatId).nodup_iff, List.map_map]
  exact nodup_pairs_fst gross

theorem planFor_potAwards {roomId : RoomId} {handId : HandId} {pots : List PotAwardInput}
    {policy : RakePolicy} {plan : SettlementPlan}
    (h : buildPlanFromPotAwards roomId handId pots policy = .ok plan) :
    PlanFor roomId handId plan := by
  unfold buildPlanFromPotAwards at h
  split at h
  · cases h
  rename_i gross _
  have hseats := nodup_payoutSeats gross
  unfold planOfGross at h
  split at h
  · cases h
  split_ifs at h
  · cases h
    exact ⟨rfl, rfl, List.nodup_nil⟩
  split at h
  · cases h
  split at h
  · cases h
  cases h
  exact ⟨rfl, rfl, nodup_apportionByWeight _ hseats⟩

theorem planFor_showdown {st : EngineState Card} {input : ShowdownInput Card} {policy : RakePolicy}
    {plan : SettlementPlan} (h : buildSettlementPlanFromShowdown st input policy = .ok plan) :
    PlanFor st.snapshot.roomId st.snapshot.handId plan := by
  unfold buildSettlementPlanFromShowdown at h
  split_ifs at h
  split at h
  · cases h
  split at h
  · cases h
  rename_i hplan
  cases h
  exact planFor_potAwards hplan

end HoldemPlatform.Settlement.Plan

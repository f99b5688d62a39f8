import HoldemPlatform.Auth.Texts
import HoldemPlatform.Client.Skill

/-!
# Does the Gateway Read the Action the Agent Meant?

The agent writes the amount in decimal and the gateway reads that back (`parseU128_toString`). The name of
the action is written as Rust prints it, in lower case, and read by the gateway's own table of names. The
two agree on the names of one word only: `raise_to` and `all_in` are sent as `raiseto` and `allin`, which
the gateway refuses.
-/

namespace HoldemPlatform.Client.DecodedActions

open HoldemPlatform.Domain.Money HoldemPlatform.Domain.Game
open HoldemPlatform.Auth.Texts HoldemPlatform.Gateway.Requests HoldemPlatform.Client.Skill

/-! ### The amount -/

/-- The number `parse` reads from a list of digits. -/
theorem foldl_digits (digits : List Char) (acc : ℕ) :
    digits.foldl (fun acc c => acc * 10 + (c.toNat - '0'.toNat)) acc =
      Nat.ofDigitChars 10 digits acc := by
  have hstep : (fun (acc : ℕ) (c : Char) => acc * 10 + (c.toNat - '0'.toNat)) =
      fun acc c => 10 * acc + (c.toNat - '0'.toNat) := by
    funext acc c
    rw [Nat.mul_comm]
  rw [hstep]
  rfl

/-- **An amount written in decimal is read back.** -/
theorem parseU128_toString (amount : Chips) : parseU128 (toString amount.asU128) = some amount := by
  have htext : (toString amount.asU128).toList = Nat.toDigits 10 amount.asU128 := by
    rw [Nat.toString_eq_repr, Nat.toList_repr]
  have hdigit : ∀ c ∈ Nat.toDigits 10 amount.asU128, c.isDigit = true := by
    intro c hc
    exact Nat.isDigit_of_mem_toDigits (by decide) (by decide) hc
  have hne : Nat.toDigits 10 amount.asU128 ≠ [] := Nat.toDigits_ne_nil
  have hvalue : Nat.ofDigitChars 10 (Nat.toDigits 10 amount.asU128) 0 = amount.asU128 :=
    Nat.ofDigitChars_ten_toDigits
  unfold parseU128
  rw [htext]
  generalize Nat.toDigits 10 amount.asU128 = digits at hdigit hne hvalue
  split
  · -- a number has no plus sign before it
    exact absurd (hdigit '+' List.mem_cons_self) (by decide)
  · simp only [foldl_digits, hvalue]
    rw [if_pos ⟨hne, List.all_eq_true.2 hdigit⟩, dif_pos amount.lt]

theorem parseAmountU128_toString (amount : Option Chips) :
    parseAmountU128 (amount.map fun v => toString v.asU128) = .ok amount := by
  cases amount with
  | none => rfl
  | some amount =>
    simp only [Option.map_some, parseAmountU128, parseU128_toString]

/-! ### The action -/

/-- The gateway has another name for the actions whose name is two words. -/
def Misnamed (actionType : ActionType) : Prop := actionType = .raiseTo ∨ actionType = .allIn

instance (actionType : ActionType) : Decidable (Misnamed actionType) :=
  inferInstanceAs (Decidable (_ ∨ _))

theorem parseActionType_debugLowercase (actionType : ActionType) :
    parseActionType (debugLowercase actionType) =
      if Misnamed actionType then .error .invalidActionType else .ok actionType := by
  cases actionType <;> decide

/-- **The gateway reads a request as the action the agent meant exactly if the name of the action is one
word.** -/
theorem toPlayerAction_built_iff (skill skill' : LocalAgentSkill) (seatCtx : SeatContext)
    (stamp : RequestStamp) (handId : HandId) (actionSeq : ActionSeq) (actionType : ActionType)
    (amount : Option Chips) (txHash : Option String) (request : GameActRequest)
    (hseat : skill.seatCtx = some seatCtx)
    (hbuild : buildGameActRequest skill stamp handId actionSeq actionType
      (amount.map fun v => toString v.asU128) txHash = .ok (skill', request)) :
    toPlayerAction request =
        .ok { roomId := seatCtx.roomId, handId, actionSeq, seatId := seatCtx.seatId, actionType,
              amount } ↔
      actionType ≠ .raiseTo ∧ actionType ≠ .allIn := by
  obtain ⟨requestMeta, rfl⟩ := buildGameActRequest_ok hseat hbuild
  rw [← not_or]
  show _ ↔ ¬ Misnamed actionType
  unfold toPlayerAction
  rw [parseActionType_debugLowercase, parseAmountU128_toString]
  by_cases hname : Misnamed actionType
  · rw [if_pos hname]
    exact iff_of_false (fun h => by cases h) (not_not_intro hname)
  · rw [if_neg hname]
    exact iff_of_true rfl hname

/-- A skill that has joined a room and made no attempt. -/
def joinedSkill : LocalAgentSkill :=
  { config := some { endpointHttp := "http://127.0.0.1", endpointWs := none, sessionId := none }
    seatCtx := some { roomId := ⟨1⟩, seatId := 3, seatAddress := none,
                      requestSignaturePubkeyId := none } }

def someStamp : RequestStamp := { requestId := ⟨7⟩, requestNonce := "n", requestTs := 0 }

/-- A raise to 500 is refused as an invalid action type. -/
theorem raise_not_decoded : ∃ skill' request,
    buildGameActRequest joinedSkill someStamp ⟨2⟩ 4 .raiseTo
      ((some (Chips.ofU128 500)).map fun v => toString v.asU128) (some "0xab") =
        .ok (skill', request) ∧
    toPlayerAction request = .error .invalidActionType := by
  refine ⟨_, _, rfl, ?_⟩
  decide

theorem call_decoded : ∃ skill' request,
    buildGameActRequest joinedSkill someStamp ⟨2⟩ 4 .call
      ((some (Chips.ofU128 500)).map fun v => toString v.asU128) (some "0xab") =
        .ok (skill', request) ∧
    toPlayerAction request =
      .ok { roomId := ⟨1⟩, handId := ⟨2⟩, actionSeq := 4, seatId := 3, actionType := .call,
            amount := some (Chips.ofU128 500) } := by
  refine ⟨_, _, rfl, ?_⟩
  exact (toPlayerAction_built_iff joinedSkill _ _ someStamp ⟨2⟩ 4 .call (some (Chips.ofU128 500))
    (some "0xab") _ rfl rfl).2 ⟨by decide, by decide⟩

end HoldemPlatform.Client.DecodedActions

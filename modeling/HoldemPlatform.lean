import HoldemPlatform.Lib.Rotation
import HoldemPlatform.Lib.Marks
import HoldemPlatform.Engine.PotLayers
import HoldemPlatform.Engine.Deal
import HoldemPlatform.Engine.DealtCards
import HoldemPlatform.Engine.Turn
import HoldemPlatform.Engine.Action
import HoldemPlatform.Engine.Run
import HoldemPlatform.Engine.Round
import HoldemPlatform.Engine.FreshHand
import HoldemPlatform.Engine.Refusal
import HoldemPlatform.Engine.Progress
import HoldemPlatform.Engine.Copies
import HoldemPlatform.Engine.ActingSeat
import HoldemPlatform.Engine.HandEnds
import HoldemPlatform.Engine.Board
import HoldemPlatform.Engine.StreetCloses
import HoldemPlatform.Engine.LegalActions
import HoldemPlatform.Engine.Showdown
import HoldemPlatform.Engine.ContestedLayers
import HoldemPlatform.Settlement.Plan
import HoldemPlatform.Lib.Shares
import HoldemPlatform.Settlement.Conservation
import HoldemPlatform.Chain.Watcher
import HoldemPlatform.Room.Actor
import HoldemPlatform.Room.Effect
import HoldemPlatform.Room.HandLog
import HoldemPlatform.Room.ButtonRotation
import HoldemPlatform.Room.Alternation
import HoldemPlatform.Room.ActionBinding
import HoldemPlatform.Room.Participants
import HoldemPlatform.Room.Eligibility
import HoldemPlatform.Room.StrayCallbacks
import HoldemPlatform.Room.EventLog
import HoldemPlatform.Room.TimerGeneration
import HoldemPlatform.Room.Moves
import HoldemPlatform.Room.Replay
import HoldemPlatform.Lib.Stretches
import HoldemPlatform.Room.TurnClock
import HoldemPlatform.Settlement.Orchestrator
import HoldemPlatform.Settlement.DoublePayout
import HoldemPlatform.Settlement.SettledHands
import HoldemPlatform.Settlement.Submissions
import HoldemPlatform.Settlement.BatchPayouts
import HoldemPlatform.Settlement.ConfirmedPayouts
import HoldemPlatform.Settlement.Settleable
import HoldemPlatform.Chain.TxRepo
import HoldemPlatform.Gateway.Requests
import HoldemPlatform.Room.Inline
import HoldemPlatform.Service.RoomService
import HoldemPlatform.Service.Payments
import HoldemPlatform.Service.PaidAmount
import HoldemPlatform.Service.PaymentLog
import HoldemPlatform.Service.OneTransaction
import HoldemPlatform.Service.VerifiedPayments
import HoldemPlatform.Service.FundedActions
import HoldemPlatform.Lib.Interleaving
import HoldemPlatform.Service.Concurrent
import HoldemPlatform.Service.Concurrent.Points
import HoldemPlatform.Service.Concurrent.Deliveries
import HoldemPlatform.Service.SeatCommands
import HoldemPlatform.Lib.Joined
import HoldemPlatform.Lib.Ranks
import HoldemPlatform.Auth.Json
import HoldemPlatform.Auth.Signing
import HoldemPlatform.Auth.Texts
import HoldemPlatform.Auth.KeyBindingMessage
import HoldemPlatform.Service.Blocking
import HoldemPlatform.Gateway.Handlers
import HoldemPlatform.Gateway.SeatAuthority
import HoldemPlatform.Gateway.RequestMessages
import HoldemPlatform.Gateway.BurnedNonces
import HoldemPlatform.Client.Skill
import HoldemPlatform.Client.Runtime
import HoldemPlatform.Client.SingleSeat
import HoldemPlatform.Client.PaysOnce
import HoldemPlatform.Client.DecodedActions
import HoldemPlatform.Audit.EventSink
import HoldemPlatform.Audit.EventOrder
import HoldemPlatform.Crypto.SeatCrypto
import HoldemPlatform.Crypto.HoleCards
import HoldemPlatform.Client.PrivateState
import HoldemPlatform.Contract.BatchSettlement
import HoldemPlatform.Contract.UsedIds
import HoldemPlatform.Engine.LayerLevels
import HoldemPlatform.Settlement.Apportionment
import HoldemPlatform.Settlement.LargePots
import HoldemPlatform.Settlement.Awards
import HoldemPlatform.Settlement.TwoBuilders
import HoldemPlatform.Settlement.CoveredWins
import HoldemPlatform.Audit.Outbox
import HoldemPlatform.Lib.BoundedChannel
import HoldemPlatform.Gateway.EventBus
import HoldemPlatform.Gateway.LiveStreams
import HoldemPlatform.Auth.CanonicalJson
import HoldemPlatform.Settlement.Nonces
import HoldemPlatform.Gateway.Limits
import HoldemPlatform.Contract.RawTransaction
import HoldemPlatform.Contract.BatchCall
import HoldemPlatform.Client.BotTable
import HoldemPlatform.Client.RuleTurn
import HoldemPlatform.Service.Isolation
import HoldemPlatform.Gateway.Pipeline

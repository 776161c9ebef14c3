import Switchboard.Bot.Router
import Switchboard.Builtin
import Switchboard.Config.File
import Switchboard.Fleet.Sweeps
import Switchboard.Handoff.Receivers
import Switchboard.LogDirectory
import Switchboard.Script
import Switchboard.Waiter.Session
import Switchboard.Proofs.Table
import Switchboard.Proofs.Fleet.Territory
import Switchboard.Proofs.Fleet.Resolution
import Switchboard.Proofs.Fleet.Convergence
import Switchboard.Proofs.Accounts
import Switchboard.Proofs.Agenda
import Switchboard.Proofs.Bot.Accounting
import Switchboard.Proofs.Bot.Kill
import Switchboard.Proofs.Fleet.Eviction
import Switchboard.Proofs.Waiter.Dispatch
import Switchboard.Proofs.Waiter.Turn
import Switchboard.Proofs.Session.Run
import Switchboard.Proofs.Session.Turn
import Switchboard.Proofs.Session.History
import Switchboard.Proofs.Session.FirstMatch
import Switchboard.Proofs.Session.Fate
import Switchboard.Proofs.Session.Attention
import Switchboard.Proofs.Session.Interruption
import Switchboard.Proofs.Session.Course
import Switchboard.Proofs.Session.Verdict
import Switchboard.Proofs.Session.Disarming
import Switchboard.Proofs.Bot.HeldSubscriptions
import Switchboard.Proofs.Bot.Lifting
import Switchboard.Proofs.Bot.Lifespan
import Switchboard.Proofs.Handoff.Run
import Switchboard.Proofs.Handoff.Delivery
import Switchboard.Proofs.Handoff.Timing
import Switchboard.Proofs.Bot.Acceptance
import Switchboard.Proofs.Bot.Privilege
import Switchboard.Proofs.Bot.Refusal
import Switchboard.Proofs.Bot.Answer
import Switchboard.Proofs.Bot.Decision
import Switchboard.Proofs.Catalogue.Overrides
import Switchboard.Proofs.Cooldown.Refunds
import Switchboard.Proofs.Fleet.Sightings
import Switchboard.Proofs.Fleet.Sweeps
import Switchboard.Proofs.Fleet.Exclusion
import Switchboard.Proofs.Fleet.Serial
import Switchboard.Proofs.Catalogue.Buckets
import Switchboard.Proofs.Bot.OpenWaits
import Switchboard.Proofs.Bot.Deletion
import Switchboard.Proofs.Bot.Approval
import Switchboard.Proofs.Cooldown.PlainTable
import Switchboard.Proofs.Message
import Switchboard.Proofs.Bot.Prefix
import Switchboard.Proofs.Session.Pending
import Switchboard.Proofs.Bot.KillReport
import Switchboard.Proofs.Bot.Grammar
import Switchboard.Proofs.Catalogue.Registration
import Switchboard.Proofs.Cooldown.Announcement
import Switchboard.Proofs.Bot.Announcement
import Switchboard.Proofs.Session.Pacing
import Switchboard.Proofs.Config

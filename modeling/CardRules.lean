import CardRules.Text.Pattern
import CardRules.Text.Integer
import CardRules.Text.Quoted
import CardRules.Json.Reader
import CardRules.Json.Same
import CardRules.Json.Writer
import CardRules.Ability.Basic
import CardRules.Game.Update
import CardRules.Condition.Eval
import CardRules.Cost.Payment
import CardRules.Target.Legal
import CardRules.Resolver.Table
import CardRules.Script.Stock
import CardRules.Replacement
import CardRules.CardText.Abilities
import CardRules.Record.Game
import CardRules.Record.Script
import CardRules.Record.Replacement
import CardRules.Engine.Activate
import CardRules.Engine.Create
import CardRules.Record.Listener
import CardRules.CardData.Card
import CardRules.CardData.Lenience
import CardRules.Record.Settings
import CardRules.Main
import CardRules.Json.Shortest
import CardRules.Proofs.Game.Roster
import CardRules.Proofs.Game.Step
import CardRules.Proofs.Game.Reach
import CardRules.Proofs.Game.Placement
import CardRules.Proofs.Game.DonPool
import CardRules.Proofs.Game.Changes
import CardRules.Proofs.Sharing
import CardRules.Proofs.Script.Helpers
import CardRules.Proofs.Script.Routine
import CardRules.Proofs.Engine.Frame
import CardRules.Proofs.Engine.Run
import CardRules.Proofs.Cost.Charge
import CardRules.Proofs.Cost.Exact
import CardRules.Proofs.Engine.Publish
import CardRules.Proofs.Engine.Stages
import CardRules.Proofs.Engine.Announcement
import CardRules.Proofs.Engine.Order
import CardRules.Proofs.Hosted
import CardRules.Proofs.Cost.Solvent
import CardRules.Proofs.Script.Solvent
import CardRules.Proofs.Engine.Acceptance
import CardRules.Proofs.Engine.Refusal
import CardRules.Proofs.Engine.Legality
import CardRules.Proofs.Engine.Forfeit
import CardRules.Proofs.Engine.Limit
import CardRules.Proofs.Text.Pattern
import CardRules.Proofs.CardText.Lifting
import CardRules.Proofs.CardText.Conditions
import CardRules.Proofs.Condition.NormalForm
import CardRules.Proofs.Log
import CardRules.Proofs.Notice.Subscriptions
import CardRules.Proofs.Replacement
import CardRules.Proofs.CardText.Removal
import CardRules.Proofs.Game.Places
import CardRules.Proofs.Game.Edits
import CardRules.Proofs.Game.Moves
import CardRules.Proofs.Game.Shifts
import CardRules.Proofs.Resolver.Removal
import CardRules.Proofs.Resolver.Leaving
import CardRules.Proofs.Resolver.Search
import CardRules.Proofs.Resolver.Choice
import CardRules.Proofs.Resolver.Discard
import CardRules.Proofs.Resolver.Damage
import CardRules.Proofs.Resolver.Giving
import CardRules.Proofs.Cost.Footprint
import CardRules.Proofs.CardText.Lasting
import CardRules.Proofs.Engine.Removal
import CardRules.Proofs.Engine.Clearing
import CardRules.Proofs.Engine.Sharing
import CardRules.Proofs.Script.Turning
import CardRules.Proofs.Engine.Orientation
import CardRules.Proofs.Engine.Mark
import CardRules.Proofs.Engine.OncePerTurn
import CardRules.Proofs.Text.Number
import CardRules.Proofs.Text.Ascii
import CardRules.Proofs.CardText.Cutting
import CardRules.Proofs.CardText.Segments
import CardRules.Proofs.CardText.Carrying
import CardRules.Proofs.CardText.Completeness
import CardRules.Proofs.CardData.Written
import CardRules.Proofs.CardText.Recorded
import CardRules.Proofs.CardData.Accepted
import CardRules.Proofs.CardData.Evaluation
import CardRules.Proofs.Text.LetterCase
import CardRules.Proofs.CardText.LetterCase
import CardRules.Proofs.Target.Matching
import CardRules.Proofs.Target.Legal
import CardRules.Proofs.Resolver.InPlace
import CardRules.Proofs.Script.Agreement

import TextAdventure.Action
import TextAdventure.Catalog
import TextAdventure.CommandLine
import TextAdventure.CommandLine.Arguments
import TextAdventure.Conversation
import TextAdventure.Conversation.Game
import TextAdventure.Conversation.Json
import TextAdventure.Conversation.Lines
import TextAdventure.Conversation.Style
import TextAdventure.Cottage
import TextAdventure.Decimal.Binary64
import TextAdventure.Decimal.Digits
import TextAdventure.Dictionary
import TextAdventure.IdSet
import TextAdventure.Interaction
import TextAdventure.Json.Fault
import TextAdventure.Json.Reader
import TextAdventure.Json.Record
import TextAdventure.Json.Skip
import TextAdventure.Json.Writer
import TextAdventure.Lookup
import TextAdventure.Main
import TextAdventure.Markup
import TextAdventure.Prompt
import TextAdventure.Resolver
import TextAdventure.Room
import TextAdventure.Script
import TextAdventure.Session
import TextAdventure.SessionFile.Reader
import TextAdventure.SessionFile.Writer
import TextAdventure.Settings
import TextAdventure.Settings.File
import TextAdventure.Store
import TextAdventure.Store.Files
import TextAdventure.Store.Memory
import TextAdventure.Store.Tree
import TextAdventure.Text.Blank
import TextAdventure.Text.BreakTable
import TextAdventure.Text.CaseTable
import TextAdventure.Text.Control
import TextAdventure.Text.Hexadecimal
import TextAdventure.Text.HiddenTable
import TextAdventure.Text.LetterTable
import TextAdventure.Text.LineBreak
import TextAdventure.Text.Lowercase
import TextAdventure.Text.Name
import TextAdventure.Text.NameTable
import TextAdventure.Text.Normal
import TextAdventure.Text.Quoted
import TextAdventure.Text.Scanner
import TextAdventure.Text.Search
import TextAdventure.Text.Width
import TextAdventure.Text.WidthTable
import TextAdventure.Thing
import TextAdventure.Toml.Reader
import TextAdventure.Toml.Scalar
import TextAdventure.Toml.Table
import TextAdventure.Validation
import TextAdventure.Varying
import TextAdventure.Verb
import TextAdventure.VerbTable
import TextAdventure.Verbs.Handler
import TextAdventure.Verbs.Listing
import TextAdventure.Verbs.Looking
import TextAdventure.Verbs.Movement
import TextAdventure.Verbs.Upkeep
import TextAdventure.Wire
import TextAdventure.World
import TextAdventure.Wrap
import TextAdventure.Proofs.Updates
import TextAdventure.Proofs.Performance
import TextAdventure.Proofs.Resolving
import TextAdventure.Proofs.Threading
import TextAdventure.Proofs.Runs
import TextAdventure.Proofs.Replay
import TextAdventure.Proofs.Reactions
import TextAdventure.Proofs.Content
import TextAdventure.Proofs.Movement
import TextAdventure.Proofs.Handlers
import TextAdventure.Proofs.LegalMoves
import TextAdventure.Proofs.Blanks
import TextAdventure.Proofs.Elements
import TextAdventure.Proofs.SpeechTags
import TextAdventure.Proofs.Grouping
import TextAdventure.Proofs.Turns
import TextAdventure.Proofs.Interleaving
import TextAdventure.Proofs.Visits
import TextAdventure.Proofs.Scanning
import TextAdventure.Proofs.SessionFileParts
import TextAdventure.Proofs.SessionFiles
import TextAdventure.Proofs.FileSessions
import TextAdventure.Proofs.Following
import TextAdventure.Proofs.Mirroring
import TextAdventure.Proofs.Sittings
import TextAdventure.Proofs.Restarts
import TextAdventure.Proofs.WayBack
import TextAdventure.Proofs.OpenExits
import TextAdventure.Proofs.Arrivals
import TextAdventure.Proofs.References
import TextAdventure.Proofs.SilentReactions
import TextAdventure.Proofs.Outages
import TextAdventure.Proofs.FailureCount
import TextAdventure.Proofs.NormalForms
import TextAdventure.Proofs.Spelling
import TextAdventure.Proofs.JsonRecords
import TextAdventure.Proofs.WireForms
import TextAdventure.Proofs.JsonLines
import TextAdventure.Proofs.Tries
import TextAdventure.Proofs.UnseenRooms
import TextAdventure.Proofs.FileHistories
import TextAdventure.Proofs.CannedPhrases
import TextAdventure.Proofs.FirstAble
import TextAdventure.Proofs.CottageDeeds
import TextAdventure.Proofs.FairPlay
import TextAdventure.Proofs.NoDeadEnd
import TextAdventure.Proofs.TypedWords
import TextAdventure.Proofs.TypedPhrases
import TextAdventure.Proofs.WorkingPairs
import TextAdventure.Proofs.LowerCase
import TextAdventure.Proofs.Recasting
import TextAdventure.Proofs.Synonyms
import TextAdventure.Proofs.Pronouns
import TextAdventure.Proofs.Doorways
import TextAdventure.Proofs.Layouts
import TextAdventure.Proofs.PlainText
import TextAdventure.Proofs.SoundWorlds
import TextAdventure.Proofs.Building
import TextAdventure.Proofs.BuildOrder
import TextAdventure.Proofs.TakenThings
import TextAdventure.Proofs.NamedPlaces
import TextAdventure.Proofs.Collections
import TextAdventure.Proofs.Replacing
import TextAdventure.Proofs.Templates
import TextAdventure.Proofs.FileNames

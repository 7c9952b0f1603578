import GuessClient.Main
import GuessClient.Simulation
import GuessClient.Proofs.Ending
import GuessClient.Proofs.Leaving
import GuessClient.Proofs.LateReply
import GuessClient.Proofs.Waiting
import GuessClient.Proofs.Tickets
import GuessClient.Proofs.Rest
import GuessClient.Proofs.Fate
import GuessClient.Proofs.Secrecy
import GuessClient.Proofs.Screen
import GuessClient.Proofs.Journal
import GuessClient.Proofs.Bookkeeping
import GuessClient.Proofs.Protocol
import GuessClient.Proofs.Dialogue
import GuessClient.Proofs.Unobserved
import GuessClient.Proofs.Outstanding
import GuessClient.Proofs.TimeLeft
import GuessClient.Proofs.Json.Spelling
import GuessClient.Proofs.Json.Syntax
import GuessClient.Proofs.Traceless
import GuessClient.Proofs.Json.Members
import GuessClient.Proofs.Json.Quoting
import GuessClient.Proofs.WireFormat
import GuessClient.Proofs.SavedSettings
import GuessClient.Proofs.Reveal
import GuessClient.Proofs.Wrapping
import GuessClient.Proofs.LogBox
import GuessClient.Proofs.Scrolling
import GuessClient.Proofs.Typing
import GuessClient.Proofs.Modes
import GuessClient.Proofs.Performing
import GuessClient.Proofs.Base64
import GuessClient.Proofs.HintPicture
import GuessClient.Proofs.HintSaving
import GuessClient.Proofs.Json.Integers
import GuessClient.Proofs.Json.Trailing
import GuessClient.Proofs.LoadedSettings
import GuessClient.Proofs.Json.Compact
import GuessClient.Proofs.ShownValues
import GuessClient.Proofs.ShownTimes
import GuessClient.Proofs.LogGrowth
import GuessClient.Proofs.Arguments
import GuessClient.Proofs.Choosing
import GuessClient.Proofs.Cursor

import Strongbox.Engine.Recording
import Strongbox.Expectation
import Strongbox.Main
import Strongbox.Proofs.Engine.Process
import Strongbox.Proofs.Engine.Reopen
import Strongbox.Proofs.Engine.Transaction
import Strongbox.Proofs.Session.History
import Strongbox.Proofs.Session.Service
import Strongbox.Proofs.Tree.Reachable
import Strongbox.Proofs.Tree.Epoch
import Strongbox.Proofs.Engine.Saving
import Strongbox.Proofs.Engine.Clock
import Strongbox.Proofs.Engine.Admission
import Strongbox.Proofs.Engine.Tamper
import Strongbox.Proofs.Engine.Deferral
import Strongbox.Proofs.Engine.Agreement
import Strongbox.Proofs.Session.Cursors
import Strongbox.Proofs.Cli.Remove
import Strongbox.Proofs.Cli.Write
import Strongbox.Proofs.Tree.Renamed
import Strongbox.Proofs.Tree.Words
import Strongbox.Proofs.Tree.Files
import Strongbox.Proofs.Session.Pool
import Strongbox.Proofs.Session.Appending
import Strongbox.Proofs.Session.Creating
import Strongbox.Proofs.Tree.Resolution
import Strongbox.Proofs.Tree.Undisturbed
import Strongbox.Proofs.Tree.DirectoryTimes
import Strongbox.Proofs.Session.Listing
import Strongbox.Proofs.Tree.ReadBack
import Strongbox.Proofs.Container.Framing
import Strongbox.Proofs.Session.OpenCall
import Strongbox.Proofs.Session.EndOfData
import Strongbox.Proofs.Session.StreamOpening
import Strongbox.Proofs.Session.EmptyWrite
import Strongbox.Proofs.Session.FaultSlot
import Strongbox.Proofs.Cli.Directories
import Strongbox.Proofs.Cli.ExitCode
import Strongbox.Proofs.Engine.Numbers
import Strongbox.Proofs.Key.Ancestry
import Strongbox.Proofs.Session.Pieces

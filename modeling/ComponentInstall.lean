import ComponentInstall.CommandLine.Run
import ComponentInstall.Main
import ComponentInstall.Proofs.Planning.Again
import ComponentInstall.Proofs.Planning.Containment
import ComponentInstall.Proofs.Planning.Decision
import ComponentInstall.Proofs.Planning.Footprint
import ComponentInstall.Proofs.Planning.History
import ComponentInstall.Proofs.Planning.Order
import ComponentInstall.Proofs.Planning.Dependence
import ComponentInstall.Proofs.Planning.WellFormed
import ComponentInstall.Proofs.CommandLine.Failure
import ComponentInstall.Proofs.Planning.FeedBacked
import ComponentInstall.Proofs.Version.Monotone
import ComponentInstall.Proofs.Planning.Publication
import ComponentInstall.Proofs.Disk.Plain
import ComponentInstall.Proofs.Staging.Making
import ComponentInstall.Proofs.Disk.Detour
import ComponentInstall.Proofs.Planning.Staged
import ComponentInstall.Proofs.Location.Stretches
import ComponentInstall.Proofs.Location.Unambiguous
import ComponentInstall.Proofs.Json.Objects
import ComponentInstall.Proofs.Json.Refusals
import ComponentInstall.Proofs.Request.Members
import ComponentInstall.Proofs.CommandLine.Agreement
import ComponentInstall.Proofs.Location.Replacement
import ComponentInstall.Proofs.Json.Printing
import ComponentInstall.Proofs.CommandLine.Printed
import ComponentInstall.Proofs.Json.Independence
import ComponentInstall.Proofs.Json.Places
import ComponentInstall.Proofs.Json.Literals
import ComponentInstall.Proofs.Config.Loading

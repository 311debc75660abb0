import HomeEntities.Main
import HomeEntities.Device.Encode
import HomeEntities.Proofs.Command.Plan
import HomeEntities.Proofs.Session.Availability
import HomeEntities.Proofs.Session.Chronicle
import HomeEntities.Proofs.Session.Protocol
import HomeEntities.Proofs.Session.ReadBack
import HomeEntities.Proofs.Setup.Duplicates
import HomeEntities.Proofs.Setup.MainControl
import HomeEntities.Proofs.Setup.Records
import HomeEntities.Proofs.Setup.Isolation
import HomeEntities.Proofs.Command.Configuration
import HomeEntities.Proofs.Connection.TreeStore
import HomeEntities.Proofs.Decimal.Truncation
import HomeEntities.Proofs.Session.Bounds
import HomeEntities.Proofs.Device.Presentation
import HomeEntities.Proofs.Session.OwnSource
import HomeEntities.Proofs.Setup.Levels
import HomeEntities.Proofs.Session.Levels
import HomeEntities.Proofs.Connection.Levels
import HomeEntities.Proofs.Session.HeldBounds
import HomeEntities.Proofs.Text.CaseMapping
import HomeEntities.Proofs.Text.Slug
import HomeEntities.Proofs.Registry.HardwareAddress
import HomeEntities.Proofs.Log.Overrides
import HomeEntities.Proofs.Session.Lights
import HomeEntities.Proofs.Command.Listing
import HomeEntities.Proofs.Entity.Hooks

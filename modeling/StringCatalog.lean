import StringCatalog.Main
import StringCatalog.Package.Loaded
import StringCatalog.Text.Escape
import StringCatalog.Proofs.Quoting
import StringCatalog.Proofs.Literals
import StringCatalog.Proofs.TableModules
import StringCatalog.Proofs.Discovered
import StringCatalog.Proofs.Compiled
import StringCatalog.Proofs.PackageNames
import StringCatalog.Proofs.WiringModules
import StringCatalog.Proofs.Wiring
import StringCatalog.Proofs.FileTrees
import StringCatalog.Proofs.Scanning
import StringCatalog.Proofs.Sources
import StringCatalog.Proofs.Rewriting
import StringCatalog.Proofs.Endings
import StringCatalog.Proofs.Lookups
import StringCatalog.Proofs.Fallback
import StringCatalog.Proofs.Documents
import StringCatalog.Proofs.EarlierFiles
import StringCatalog.Proofs.Listings
import StringCatalog.Proofs.Accounting
import StringCatalog.Proofs.Collisions
import StringCatalog.Proofs.Effects
import StringCatalog.Proofs.Confinement
import StringCatalog.Proofs.Commands
import StringCatalog.Proofs.Conversions
import StringCatalog.Proofs.Appending
import StringCatalog.Proofs.Addressing
import StringCatalog.Proofs.Codes
import StringCatalog.Proofs.Crashes
import StringCatalog.Proofs.Escapes
import StringCatalog.Proofs.Placeholders
import StringCatalog.Proofs.Fillable
import StringCatalog.Proofs.Verbatim
import StringCatalog.Proofs.Plurals
import StringCatalog.Proofs.NormalNames
import StringCatalog.Proofs.Acceptance
import StringCatalog.Proofs.Overlays
import StringCatalog.Proofs.LoadedMaps

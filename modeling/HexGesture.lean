import HexGesture.Save.Item
import HexGesture.Session.Basic
import HexGesture.Proofs.Drawing
import HexGesture.Proofs.Identifier
import HexGesture.Proofs.Reading
import HexGesture.Proofs.Layout
import HexGesture.Proofs.RoundTrip
import HexGesture.Proofs.Spelling
import HexGesture.Proofs.Search
import HexGesture.Proofs.Catalogue
import HexGesture.Proofs.Derivation
import HexGesture.Proofs.Review
import HexGesture.Proofs.Worlds
import HexGesture.Proofs.Secrets
import HexGesture.Proofs.Grammar
import HexGesture.Proofs.Tracing
import HexGesture.Proofs.Stored
import HexGesture.Proofs.Rotation
import HexGesture.Proofs.Resolution
import HexGesture.Proofs.Registration
import HexGesture.Proofs.Isolation
import HexGesture.Proofs.Reload
import HexGesture.Proofs.Seeds
import HexGesture.Proofs.Saved
import HexGesture.Proofs.Admission
import HexGesture.Proofs.Reordering
import HexGesture.Proofs.Extension
import HexGesture.Proofs.Misspelling
import HexGesture.Proofs.Stacking
import HexGesture.Proofs.Rising
import HexGesture.Proofs.Backtracking
import HexGesture.Proofs.Traffic
import HexGesture.Proofs.Geodesic
import HexGesture.Proofs.Attempts
import HexGesture.Proofs.Truncation
import HexGesture.Proofs.Handshake
import HexGesture.Proofs.Numerals
import HexGesture.Proofs.Ordinals
import HexGesture.Proofs.Views
import HexGesture.Proofs.Mixing
import HexGesture.Proofs.Numbering
import HexGesture.Proofs.Sample

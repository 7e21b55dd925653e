import Compositing.Compositor.Request
import Compositing.Config.Document
import Compositing.Proofs.Region.PointSets
import Compositing.Proofs.Compositor.Staleness
import Compositing.Proofs.Geometry.Joining
import Compositing.Proofs.Region.Spans
import Compositing.Proofs.Region.Areas
import Compositing.Proofs.Surface.Clipping
import Compositing.Proofs.Surface.Damage
import Compositing.Proofs.Surface.Commits
import Compositing.Proofs.Rendering.Silence
import Compositing.Proofs.Compositor.Releases
import Compositing.Proofs.Compositor.Callbacks
import Compositing.Proofs.Region.Observers
import Compositing.Proofs.Compositor.Reports
import Compositing.Proofs.Compositor.References
import Compositing.Proofs.Compositor.Hits
import Compositing.Proofs.Compositor.Images
import Compositing.Proofs.Compositor.Moves
import Compositing.Proofs.Surface.Input
import Compositing.Proofs.Compositor.Rounds
import Compositing.Proofs.Compositor.Counts
import Compositing.Proofs.Compositor.Watching
import Compositing.Proofs.Compositor.Activation
import Compositing.Proofs.Compositor.Ancestry
import Compositing.Proofs.Compositor.Strangers
import Compositing.Proofs.Compositor.Resolutions
import Compositing.Proofs.Compositor.Rollbacks
import Compositing.Proofs.Compositor.Clients
import Compositing.Proofs.Rendering.Degrading
import Compositing.Proofs.Rendering.Blitting
import Compositing.Proofs.Rendering.Canvases
import Compositing.Proofs.Rendering.Blending
import Compositing.Proofs.Region.Pieces
import Compositing.Proofs.Config.Validation
import Compositing.Proofs.Compositor.Stacking

import Shipwright.Decimal.Shortest
import Shipwright.Disk.Basic
import Shipwright.Element.Elements
import Shipwright.Element.Format
import Shipwright.Graph.Execute
import Shipwright.Graph.Format
import Shipwright.Graph.Property
import Shipwright.Graph.Schedule
import Shipwright.Mesh.Box
import Shipwright.Mesh.Format
import Shipwright.Mesh.Loft
import Shipwright.Mesh.Marker
import Shipwright.Mesh.Turret
import Shipwright.Mesh.Wedge
import Shipwright.OrderedMap
import Shipwright.Ron.Codec
import Shipwright.Ship.Assembly
import Shipwright.Ship.Class
import Shipwright.Ship.Defaults
import Shipwright.Ship.DesignFile
import Shipwright.Ship.Edit
import Shipwright.Ship.Library
import Shipwright.Ship.Pipeline
import Shipwright.Ship.Profile
import Shipwright.Ship.Session
import Shipwright.Ship.Settings
import Shipwright.Ship.Stage
import Shipwright.XorShift
import Shipwright.Proofs.Graph.Release
import Shipwright.Proofs.Graph.Compile
import Shipwright.Proofs.Graph.Freshness
import Shipwright.Proofs.Graph.Dataflow
import Shipwright.Proofs.Graph.Calculator
import Shipwright.Proofs.Ship.Operation
import Shipwright.Proofs.Ship.Recompilation
import Shipwright.Proofs.Graph.Locality
import Shipwright.Proofs.Mesh.Join
import Shipwright.Proofs.Mesh.WellFormed
import Shipwright.Proofs.Mesh.Shapes
import Shipwright.Proofs.Graph.Cached
import Shipwright.Proofs.Ship.Execution
import Shipwright.Proofs.Ship.Drawable
import Shipwright.Proofs.Ship.Parts
import Shipwright.Proofs.Text.Blank
import Shipwright.Proofs.Decimal.Integer
import Shipwright.Proofs.Graph.Property
import Shipwright.Proofs.Ship.Pipeline
import Shipwright.Proofs.Ship.Generation
import Shipwright.Proofs.Ship.Numbering
import Shipwright.Proofs.Ship.Identity
import Shipwright.Proofs.Ship.Staleness
import Shipwright.Proofs.Ship.Refusal
import Shipwright.Proofs.Ship.Reopening
import Shipwright.Proofs.Decimal.Nearest
import Shipwright.Proofs.Decimal.Shortest
import Shipwright.Proofs.Decimal.Text
import Shipwright.Proofs.Ron.Number
import Shipwright.Proofs.Ron.Quoted
import Shipwright.Proofs.Ron.Reader
import Shipwright.Proofs.Ron.Document
import Shipwright.Proofs.Ron.Codec
import Shipwright.Proofs.Ship.DesignFile
import Shipwright.Proofs.XorShift
import Shipwright.Proofs.Ship.History
import Shipwright.Proofs.Ship.CleanPoint
import Shipwright.Proofs.Ship.Learning
import Shipwright.Proofs.Graph.ReleaseKey
import Shipwright.Proofs.Graph.Actions
import Shipwright.Proofs.Graph.Diagnosis
import Shipwright.Proofs.Graph.Superseded
import Shipwright.Proofs.Ship.Reproduction
import Shipwright.Proofs.Graph.Editing
import Shipwright.Proofs.Graph.Memory
import Shipwright.Proofs.Mesh.Surface
import Shipwright.Proofs.Mesh.Panels
import Shipwright.Proofs.Mesh.Hull
import Shipwright.Proofs.Ship.Resolution
import Shipwright.Proofs.Ship.Extents
import Shipwright.Proofs.Ship.Blending
import Shipwright.Proofs.Single
import Shipwright.Proofs.Ron.NonNumber
import Shipwright.Proofs.Ship.Settings
import Shipwright.Proofs.Mesh.Geometry
import Shipwright.Proofs.Ship.LibraryFile
import Shipwright.Proofs.Ship.SettingsFile
import Shipwright.Proofs.Disk.Path
import Shipwright.Proofs.Ship.Filing
import Shipwright.Proofs.Ship.Slots
import Shipwright.Proofs.Mesh.Orientation
import Shipwright.Proofs.Mesh.Boxes
import Shipwright.Proofs.Mesh.Winding

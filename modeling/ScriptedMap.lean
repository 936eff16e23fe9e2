import ScriptedMap.Main
import ScriptedMap.Surface.Text
import ScriptedMap.Proofs.Table
import ScriptedMap.Proofs.Text.Alphanumeric
import ScriptedMap.Proofs.Text.Ascii
import ScriptedMap.Proofs.Text.Lowercase
import ScriptedMap.Proofs.Text.Folding
import ScriptedMap.Proofs.Json.Numeral
import ScriptedMap.Proofs.Json.Token
import ScriptedMap.Proofs.Json.Reader
import ScriptedMap.Proofs.Script.Accounting
import ScriptedMap.Proofs.Script.Head
import ScriptedMap.Proofs.Script.Token
import ScriptedMap.Proofs.Script.Form
import ScriptedMap.Proofs.Script.WellFormed
import ScriptedMap.Proofs.Script.Commitment
import ScriptedMap.Proofs.Script.Exchange
import ScriptedMap.Proofs.Script.Locality
import ScriptedMap.Proofs.Script.Diagnostic
import ScriptedMap.Proofs.Script.Legend
import ScriptedMap.Proofs.Config.Reader
import ScriptedMap.Proofs.Config.Palette
import ScriptedMap.Proofs.Geo.Country
import ScriptedMap.Proofs.Geo.Region
import ScriptedMap.Proofs.Geo.Padding
import ScriptedMap.Proofs.Geo.OwnName
import ScriptedMap.Proofs.Geo.Empty
import ScriptedMap.Proofs.Geo.Geometry
import ScriptedMap.Proofs.Geo.Fault
import ScriptedMap.Proofs.Geo.Loading
import ScriptedMap.Proofs.Geo.Fit
import ScriptedMap.Proofs.Surface.Log
import ScriptedMap.Proofs.Surface.Replay
import ScriptedMap.Proofs.Timeline.Picture
import ScriptedMap.Proofs.Timeline.Run
import ScriptedMap.Proofs.Timeline.Course
import ScriptedMap.Proofs.Timeline.Shown
import ScriptedMap.Proofs.Timeline.Dropped
import ScriptedMap.Proofs.Timeline.Residue
import ScriptedMap.Proofs.Timeline.Mirror
import ScriptedMap.Proofs.Timeline.Receivers
import ScriptedMap.Proofs.Timeline.States
import ScriptedMap.Proofs.Timeline.Tally
import ScriptedMap.Proofs.Timeline.Dispatch
import ScriptedMap.Proofs.Timeline.Advice
import ScriptedMap.Proofs.Timeline.Legend
import ScriptedMap.Proofs.Timeline.Effect
import ScriptedMap.Proofs.Binary64.Natural
import ScriptedMap.Proofs.Script.Numeral
import ScriptedMap.Proofs.Script.Wait
import ScriptedMap.Proofs.Script.Connector
import ScriptedMap.Proofs.Binary64.Order
import ScriptedMap.Proofs.Geo.Bounds

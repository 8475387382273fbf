import SketchPanel.Colour.Expression
import SketchPanel.Colour.Styled
import SketchPanel.CommandLine.Run
import SketchPanel.Files.Folder
import SketchPanel.Frame.Basic
import SketchPanel.Imaging.Png
import SketchPanel.Json.Reader
import SketchPanel.Json.Writer
import SketchPanel.Log.Format
import SketchPanel.Log.Setup
import SketchPanel.Main
import SketchPanel.Panel.Resolver
import SketchPanel.Proofs.PanelRun
import SketchPanel.Proofs.Scanning
import SketchPanel.Samples
import SketchPanel.Settings.Store
import SketchPanel.Simulator.Output
import SketchPanel.Sketch.Extraction
import SketchPanel.Proofs.BodySearch
import SketchPanel.Proofs.TouchCondition
import SketchPanel.Proofs.LongRuns
import SketchPanel.Proofs.SketchReading
import SketchPanel.Proofs.BraceNesting
import SketchPanel.Proofs.FrameParts
import SketchPanel.Proofs.FrameHistory
import SketchPanel.Proofs.PaintedPixels
import SketchPanel.Proofs.LineMargins
import SketchPanel.Proofs.ScreenPlans
import SketchPanel.Proofs.ElementForms
import SketchPanel.Proofs.StatementLayout
import SketchPanel.Proofs.ScreenOrder
import SketchPanel.Proofs.SimulatorRun
import SketchPanel.Proofs.ScreenArrival
import SketchPanel.Proofs.TouchReach
import SketchPanel.Proofs.StatementCuts
import SketchPanel.Proofs.CallArguments
import SketchPanel.Proofs.PanelBounds
import SketchPanel.Proofs.MarkupFrame
import SketchPanel.Proofs.RenderCalls
import SketchPanel.Proofs.CommandWords
import SketchPanel.Proofs.RenderCommand
import SketchPanel.Proofs.BodyDepth
import SketchPanel.Proofs.ScreenLookup
import SketchPanel.Proofs.CallPlaces
import SketchPanel.Proofs.CallForms
import SketchPanel.Proofs.TokenArguments
import SketchPanel.Proofs.SingleCalls
import SketchPanel.Proofs.TextCalls
import SketchPanel.Proofs.HexColours
import SketchPanel.Proofs.PackedColours
import SketchPanel.Proofs.ColourExpressions
import SketchPanel.Proofs.ZoneGeometry
import SketchPanel.Proofs.HeaderForms
import SketchPanel.Proofs.FloatParts
import SketchPanel.Proofs.FontTexts
import SketchPanel.Proofs.ObjectFields
import SketchPanel.Proofs.SettingsLayers
import SketchPanel.Proofs.WrittenValues
import SketchPanel.Proofs.SavedSettings
import SketchPanel.Proofs.LikeValues
import SketchPanel.Proofs.SceneDocuments
import SketchPanel.Proofs.PathGrowth
import SketchPanel.Proofs.CompactNumbers
import SketchPanel.Proofs.DashCuts

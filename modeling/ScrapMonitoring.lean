import ScrapMonitoring.Collection.Tracker
import ScrapMonitoring.Collection.Steps
import ScrapMonitoring.Collection.History
import ScrapMonitoring.Collection.Episodes
import ScrapMonitoring.Collection.Baseline
import ScrapMonitoring.Collection.Detection
import ScrapMonitoring.Collection.Settlement
import ScrapMonitoring.EdgeV2.Artifacts
import ScrapMonitoring.Foundations.Interleaving
import ScrapMonitoring.EdgeV2.Receiver
import ScrapMonitoring.EdgeV2.ExactlyOnce
import ScrapMonitoring.EdgeV2.DeviceStatus
import ScrapMonitoring.EdgeV2.CompactStatus
import ScrapMonitoring.Foundations.Calendar
import ScrapMonitoring.History.Minute
import ScrapMonitoring.Foundations.Extrema
import ScrapMonitoring.Foundations.Sketch
import ScrapMonitoring.History.Tally
import ScrapMonitoring.History.Original
import ScrapMonitoring.History.Summary
import ScrapMonitoring.History.Aggregate
import ScrapMonitoring.Foundations.Sorted
import ScrapMonitoring.Foundations.Tiles
import ScrapMonitoring.Replay.Daily
import ScrapMonitoring.Replay.Resolve
import ScrapMonitoring.Replay.Partition
import ScrapMonitoring.Replay.Summary
import ScrapMonitoring.Replay.Loading
import ScrapMonitoring.Replay.Agreement
import ScrapMonitoring.EdgeV2.Latest
import ScrapMonitoring.Camera.Status
import ScrapMonitoring.Camera.Lease
import ScrapMonitoring.Monitoring.Rows
import ScrapMonitoring.Monitoring.Snapshot
import ScrapMonitoring.Monitoring.Freshness
import ScrapMonitoring.Foundations.Transaction
import ScrapMonitoring.Operations.Store
import ScrapMonitoring.Operations.Evaluation
import ScrapMonitoring.Operations.Effects
import ScrapMonitoring.Operations.Runs
import ScrapMonitoring.Operations.Episodes
import ScrapMonitoring.Operations.Lifecycle
import ScrapMonitoring.Operations.Resolution
import ScrapMonitoring.Filtering.Slots
import ScrapMonitoring.Foundations.Median
import ScrapMonitoring.Filtering.Projection
import ScrapMonitoring.Filtering.Sustained
import ScrapMonitoring.Filtering.Onset
import ScrapMonitoring.Foundations.WriteLock
import ScrapMonitoring.PitSettings.Rows
import ScrapMonitoring.PitSettings.Calls
import ScrapMonitoring.PitSettings.Effects
import ScrapMonitoring.PitSettings.LostUpdate
import ScrapMonitoring.Media.Clips
import ScrapMonitoring.Media.Jobs
import ScrapMonitoring.Media.Queue
import ScrapMonitoring.Media.Export
import ScrapMonitoring.Media.Service
import ScrapMonitoring.Foundations.Growth
import ScrapMonitoring.Media.Rows
import ScrapMonitoring.Media.Changes
import ScrapMonitoring.Media.Origin
import ScrapMonitoring.Foundations.Session
import ScrapMonitoring.Media.Automatic
import ScrapMonitoring.Media.Binding
import ScrapMonitoring.Metrics.StateEngine
import ScrapMonitoring.Metrics.Ingest
import ScrapMonitoring.Events.PageStore
import ScrapMonitoring.Sessions.Service
import ScrapMonitoring.Filtering.Windows
import ScrapMonitoring.Filtering.Heights
import ScrapMonitoring.Filtering.HeightPages
import ScrapMonitoring.Filtering.Streams
import ScrapMonitoring.Filtering.Prepared
import ScrapMonitoring.History.Conservation
import ScrapMonitoring.History.Writer
import ScrapMonitoring.Foundations.Double
import ScrapMonitoring.Foundations.Float64
import ScrapMonitoring.Foundations.DoubleText
import ScrapMonitoring.Foundations.Frames
import ScrapMonitoring.Foundations.Quote
import ScrapMonitoring.Foundations.Sha256
import ScrapMonitoring.Foundations.Succeeds
import ScrapMonitoring.Foundations.Tree
import ScrapMonitoring.Foundations.TreeText
import ScrapMonitoring.Transfer.Batches
import ScrapMonitoring.Transfer.Copy
import ScrapMonitoring.Transfer.Faithful
import ScrapMonitoring.EdgeV2.Angles
import ScrapMonitoring.Forecast.Forecast
import ScrapMonitoring.Foundations.Polygon
import ScrapMonitoring.Lidar.Boundary
import ScrapMonitoring.Metrics.AlertEngine
import ScrapMonitoring.Collection.Outage
import ScrapMonitoring.Events.Snapshots
import ScrapMonitoring.Foundations.Bins
import ScrapMonitoring.Foundations.Grid
import ScrapMonitoring.History.Reading
import ScrapMonitoring.Lidar.Profile
import ScrapMonitoring.Operations.ActiveHealth
import ScrapMonitoring.History.Backfill
import ScrapMonitoring.Administration.Versions
import ScrapMonitoring.Transfer.Atomic
import ScrapMonitoring.Notifications.Pages
import ScrapMonitoring.Foundations.Csv
import ScrapMonitoring.Downloads.Csv
import ScrapMonitoring.Events.RecordingLinks
import ScrapMonitoring.Downloads.Events

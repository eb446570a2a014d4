import RegionBus.Allocation.Basic
import RegionBus.Block.Basic
import RegionBus.Block.Contents
import RegionBus.Block.Image
import RegionBus.Block.Kind
import RegionBus.Breakpoint.Flags
import RegionBus.Breakpoint.Registry
import RegionBus.Bus.Access
import RegionBus.Bus.Basic
import RegionBus.Bus.Entry
import RegionBus.Config.Basic
import RegionBus.Config.Document
import RegionBus.Device.Bank
import RegionBus.Device.Kind
import RegionBus.Device.Memory
import RegionBus.Error
import RegionBus.Invalidation
import RegionBus.Main
import RegionBus.Mapping
import RegionBus.Probe.Address
import RegionBus.Probe.Arguments
import RegionBus.Probe.Report
import RegionBus.Probe.Run
import RegionBus.Probe.Variables
import RegionBus.RawMemory
import RegionBus.Region
import RegionBus.SharedStore
import RegionBus.StandardMap
import RegionBus.Store
import RegionBus.Machine
import RegionBus.Text.Classes
import RegionBus.Text.Hex
import RegionBus.Text.Json
import RegionBus.Text.Quoted
import RegionBus.Text.Unprintable
import RegionBus.Toml.Chars
import RegionBus.Toml.DateTime
import RegionBus.Toml.Document
import RegionBus.Toml.Number
import RegionBus.Toml.Quoted
import RegionBus.Toml.Reader
import RegionBus.Toml.Value
import RegionBus.Toml.Written
import RegionBus.Window
import RegionBus.Word
import RegionBus.Proofs.Mapping.Coverage
import RegionBus.Proofs.Breakpoint.Lookup
import RegionBus.Proofs.Interception.Layer
import RegionBus.Proofs.Bus.Alignment
import RegionBus.Proofs.Bus.Arithmetic
import RegionBus.Proofs.Bus.Dispatch
import RegionBus.Proofs.Bus.Session
import RegionBus.Proofs.Interception.Transparency
import RegionBus.Proofs.Breakpoint.Slots
import RegionBus.Proofs.Bus.Reports
import RegionBus.Proofs.Machine.Command
import RegionBus.Proofs.Machine.Following
import RegionBus.Proofs.Machine.Synchronised
import RegionBus.Proofs.Breakpoint.Hits
import RegionBus.Proofs.Machine.Observer
import RegionBus.Proofs.Bus.History
import RegionBus.Proofs.StandardMap.Layout
import RegionBus.Proofs.StandardMap.Locations
import RegionBus.Proofs.StandardMap.Views
import RegionBus.Proofs.StandardMap.Effects
import RegionBus.Proofs.Bus.ByteMemory
import RegionBus.Proofs.Bus.Refinement
import RegionBus.Proofs.Allocation.Acquisition
import RegionBus.Proofs.Allocation.Sharing
import RegionBus.Proofs.Mapping.Precedence
import RegionBus.Proofs.Window.Disjointness
import RegionBus.Proofs.Store.Translation
import RegionBus.Proofs.StandardMap.Sizes
import RegionBus.Proofs.Bus.Lanes
import RegionBus.Proofs.Machine.MaskedStores
import RegionBus.Proofs.Device.Positions
import RegionBus.Proofs.Bus.Failures
import RegionBus.Proofs.Machine.Building
import RegionBus.Proofs.Machine.Completion
import RegionBus.Proofs.Text.Json
import RegionBus.Proofs.Probe.Printed
import RegionBus.Proofs.Probe.Findings
import RegionBus.Proofs.Probe.Breaks
import RegionBus.Proofs.Toml.Numerals
import RegionBus.Proofs.Toml.Settings
import RegionBus.Proofs.Config.Persistence
import RegionBus.Proofs.Toml.Strings
import RegionBus.Proofs.Breakpoint.Matches
import RegionBus.Proofs.Store.Pokes
import RegionBus.Proofs.Store.Images
import RegionBus.Proofs.StandardMap.Images
import RegionBus.Proofs.Bus.Embedding
import RegionBus.Proofs.Machine.Invalidations
import RegionBus.Proofs.Breakpoint.Journal
import RegionBus.Proofs.Breakpoint.Names
import RegionBus.Proofs.Breakpoint.HitQueue
import RegionBus.Proofs.Interception.Reinstallation
import RegionBus.Proofs.Breakpoint.Bounds
import RegionBus.Proofs.Machine.Bounds
import RegionBus.Proofs.Window.Priority
import RegionBus.Proofs.Probe.Numerals
import RegionBus.Proofs.Probe.Addresses
import RegionBus.Proofs.Block.Steps
import RegionBus.Proofs.Block.FlatBlock
import RegionBus.Proofs.Block.Refinement

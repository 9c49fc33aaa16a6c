import Gateway.Auth.Authority
import Gateway.Backend
import Gateway.Detector.Run
import Gateway.Main
import Gateway.Service
import Gateway.Shutdown
import Gateway.Proofs.FiniteMaps
import Gateway.Proofs.TrieContents
import Gateway.Proofs.SnapshotContents
import Gateway.Proofs.SnapshotInvariant
import Gateway.Proofs.TableHistory
import Gateway.Proofs.TextBytes
import Gateway.Proofs.Prefixes
import Gateway.Proofs.Resolution
import Gateway.Proofs.DispatchGates
import Gateway.Proofs.HeaderFields
import Gateway.Proofs.Impersonation
import Gateway.Proofs.DecisionEntries
import Gateway.Proofs.Reconciliation
import Gateway.Proofs.Timelines
import Gateway.Proofs.RemoteCalls
import Gateway.Proofs.KeyedCalls
import Gateway.Proofs.TokenReadings
import Gateway.Proofs.Expiry
import Gateway.Proofs.Identities
import Gateway.Proofs.Independence
import Gateway.Proofs.ExceptionSpellings
import Gateway.Proofs.OriginalHost
import Gateway.Proofs.Batches
import Gateway.Proofs.Removals
import Gateway.Proofs.Duplicates
import Gateway.Proofs.HostCharacters
import Gateway.Proofs.WebTargets
import Gateway.Proofs.UriReadings
import Gateway.Proofs.Upstream
import Gateway.Proofs.FeedHistory
import Gateway.Proofs.CaughtUp
import Gateway.Proofs.EntryStamps
import Gateway.Proofs.ServiceMirror
import Gateway.Proofs.UnchangedService
import Gateway.Proofs.StampHistory
import Gateway.Proofs.StableOrder
import Gateway.Proofs.StrippedPaths
import Gateway.Proofs.TrieVersions
import Gateway.Proofs.IndexScan
import Gateway.Proofs.DecisionTimes
import Gateway.Proofs.HopByHop
import Gateway.Proofs.ListingOrder
import Gateway.Proofs.WrittenJson
import Gateway.Proofs.Base64Bytes
import Gateway.Proofs.Records
import Gateway.Proofs.StoredDefinitions
import Gateway.Proofs.TokenContents
import Gateway.Proofs.ForwardedChain
import Gateway.Proofs.InjectedIdentity
import Gateway.Proofs.Authorities
import Gateway.Proofs.SendableTargets
import Gateway.Proofs.BareHosts
import Gateway.Proofs.KeptHints
import Gateway.Proofs.DetectorPhases
import Gateway.Proofs.ConfigFaults
import Gateway.Proofs.TrieEntries
import Gateway.Proofs.Placements
import Gateway.Proofs.Representation
import Gateway.Proofs.SettingTables
import Gateway.Proofs.SettingRecords
import Gateway.Proofs.ConfigSections
import Gateway.Proofs.SectionOverrides
import Gateway.Proofs.Overrides

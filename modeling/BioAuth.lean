import BioAuth.Lib.BigEndian
import BioAuth.Lib.Fallible
import BioAuth.Lib.Traces
import BioAuth.Lib.Parse
import BioAuth.Lib.Text
import BioAuth.Cbor
import BioAuth.CborSpelling
import BioAuth.Crypto
import BioAuth.Locker.Format
import BioAuth.Locker.FormatSpelling
import BioAuth.Lib.Regroup
import BioAuth.Locker.RecoveryCode
import BioAuth.Locker.RecoveryCodeRoundTrip
import BioAuth.Locker.Container
import BioAuth.Locker.Engine
import BioAuth.Lib.Appends
import BioAuth.Locker.Chunks
import BioAuth.Locker.Scratch
import BioAuth.Locker.LockEnds
import BioAuth.Locker.RekeyEnds
import BioAuth.Locker.NothingOverwritten
import BioAuth.Locker.FailureLeaves
import BioAuth.Locker.UnlockOpens
import BioAuth.Locker.Recoverable
import BioAuth.Locker.RekeyKeeps
import BioAuth.Locker.Integrity
import BioAuth.Session.Channel
import BioAuth.Session.Link
import BioAuth.Lib.Inbound
import BioAuth.Session.Framing
import BioAuth.Session.Carries
import BioAuth.Protocol.Common
import BioAuth.Session.Handshake
import BioAuth.Session.HelloSpelling
import BioAuth.Session.HandshakeEnds
import BioAuth.Session.HandshakeAgreement
import BioAuth.Session.HandshakeSound
import BioAuth.Protocol.Codec
import BioAuth.Protocol.Messages
import BioAuth.Protocol.KeyWraps
import BioAuth.Protocol.Permissions
import BioAuth.Protocol.Vault
import BioAuth.Protocol.WireExact
import BioAuth.Mobile.Cbor
import BioAuth.Mobile.CborSpec
import BioAuth.Mobile.CborAgreement
import BioAuth.Mobile.Layout
import BioAuth.Mobile.Messages
import BioAuth.Mobile.KeyWraps
import BioAuth.Mobile.DecodersDeclare
import BioAuth.Mobile.Meets
import BioAuth.Mobile.RequestAgreement
import BioAuth.Protocol.Encoding
import BioAuth.Lib.Json
import BioAuth.Verifier.StoreFile
import BioAuth.Verifier.Pairing
import BioAuth.Verifier.PairingFile
import BioAuth.Verifier.PairingInvariant
import BioAuth.Verifier.PairingRuns
import BioAuth.Verifier.PairingFailure
import BioAuth.Lib.Recent
import BioAuth.Verifier.Replay
import BioAuth.Verifier.Authorization
import BioAuth.Verifier.AuthorizationRuns
import BioAuth.Verifier.GrantRuns
import BioAuth.Agent.Pool
import BioAuth.Agent.PoolRuns
import BioAuth.Agent.PairingCode
import BioAuth.Agent.CodeExpiry
import BioAuth.Agent.Ble
import BioAuth.Agent.Forgetting
import BioAuth.Protocol.VaultFits
import BioAuth.Agent.Exchange
import BioAuth.Mobile.FrameAgreement
import BioAuth.Mobile.PermissionAgreement
import BioAuth.Agent.Permissions
import BioAuth.Mobile.PermissionService
import BioAuth.Agent.PermissionConvergence
import BioAuth.Agent.PermissionFits
import BioAuth.Mobile.Idempotency
import BioAuth.Mobile.IdempotencyRuns
import BioAuth.Mobile.VaultListing
import BioAuth.Mobile.VaultService
import BioAuth.Mobile.VaultServiceRuns
import BioAuth.Lib.Keys
import BioAuth.Native.VaultStore
import BioAuth.Native.VaultStoreCodec
import BioAuth.Native.VaultStoreRuns
import BioAuth.Mobile.VaultBackup
import BioAuth.Native.VaultStoreChannel
import BioAuth.Native.VaultStoreChannelRuns
import BioAuth.Native.VaultStoreChannelOrder
import BioAuth.Lib.Interleave
import BioAuth.Native.PasskeyStore
import BioAuth.Native.PasskeyStoreRuns
import BioAuth.Native.PasskeyStoreOrder
import BioAuth.Native.WebAuthnCore
import BioAuth.Native.WebAuthnAssertions
import BioAuth.Lib.Answers
import BioAuth.Mobile.Approvals
import BioAuth.Lib.Serial
import BioAuth.Mobile.PairingStore
import BioAuth.Mobile.PairingStoreRuns
import BioAuth.Initrd.Network
import BioAuth.Agent.SshSession
import BioAuth.Agent.SshIdentities
import BioAuth.Mobile.SecureChannel
import BioAuth.Mobile.SecureChannelRuns
import BioAuth.Mobile.PhoneAuthCore
import BioAuth.Mobile.PhoneAuthRuns
import BioAuth.Mobile.KeyWrapAgreement
import BioAuth.Mobile.VaultAgreement
import BioAuth.Mobile.PairingBootstrap
import BioAuth.Mobile.Enrolment
import BioAuth.Agent.Configuration
import BioAuth.Mobile.SshAccount
import BioAuth.Agent.Vault
import BioAuth.Agent.VaultService
import BioAuth.Session.ResumableFraming
import BioAuth.Agent.SilentPhone
import BioAuth.Native.WebAuthnRelayCoordinator
import BioAuth.Native.WebAuthnRelayRuns
import BioAuth.Mobile.SerialGate
import BioAuth.Lib.Csv
import BioAuth.Mobile.VaultImport
import BioAuth.Mobile.VaultImportAgreement
import BioAuth.Lib.FlatJson
import BioAuth.Agent.Audit
import BioAuth.Agent.AuditRuns
import BioAuth.Protocol.Base64url
import BioAuth.Locker.SectionCodecs
import BioAuth.Lib.Reassembly
import BioAuth.Agent.BleFraming
import BioAuth.Mobile.BleFrameCodec
import BioAuth.Mobile.BleFrames
import BioAuth.Agent.SshFraming
import BioAuth.Mobile.ApprovalGuard
import BioAuth.Mobile.LengthPrefixedFramer
import BioAuth.Agent.Clipboard
import BioAuth.Agent.Ipc
import BioAuth.Native.PendingGattOp
import BioAuth.Agent.LuksEnroll
import BioAuth.Lib.Joined
import BioAuth.Mobile.PairingService
import BioAuth.Mobile.JoinedKeys
import BioAuth.Session.FramesFit
import BioAuth.Mobile.Base32
import BioAuth.Mobile.Totp
import BioAuth.Mobile.TotpCodes
import BioAuth.Mobile.TotpMeaning
import BioAuth.Mobile.VaultExportFiles
import BioAuth.Mobile.VaultExportRoundTrip
import BioAuth.Lib.SignedBigEndian
import BioAuth.Protocol.SshBlobs
import BioAuth.Agent.Serving
import BioAuth.Lib.Query
import BioAuth.Session.BootstrapUri
import BioAuth.Mobile.BootstrapAgreement
import BioAuth.Agent.Password
import BioAuth.Native.CanonicalCbor
import BioAuth.Native.Ctap2Encoder
import BioAuth.Native.AttestationLayout
import BioAuth.Desktop.SecureUpdater
import BioAuth.Desktop.SecureUpdaterRuns
import BioAuth.Native.BleController
import BioAuth.Native.BleControllerRuns
import BioAuth.Agent.LinkHub
import BioAuth.Agent.LinkHubRuns
import BioAuth.Lib.SuffixRules
import BioAuth.Native.PublicSuffixList
import BioAuth.Desktop.AgentConnection
import BioAuth.Desktop.AgentConnectionRuns

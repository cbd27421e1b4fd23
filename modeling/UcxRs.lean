import UcxRs.TransitionRuns
import UcxRs.InteractionProgram
import UcxRs.UcsStatus
import UcxRs.UcpCalls
import UcxRs.RequestParams
import UcxRs.Request
import UcxRs.RequestGuards
import UcxRs.CompletionQueries
import UcxRs.Listener
import UcxRs.ListenerOwnership
import UcxRs.ActiveMessages
import UcxRs.HandlerQuarantine
import UcxRs.ListenerTeardownRace
import UcxRs.Endpoint
import UcxRs.AtomicOperations
import UcxRs.HandleOwnership
import UcxRs.HandleLinearity
import UcxRs.RequestHandles
import UcxRs.RequestLinearity
import UcxRs.GuardDisposal
import UcxRs.AtomicFamilies
import UcxRs.EndpointParams
import UcxRs.WorkerCalls
import UcxRs.LateCleanup
import UcxRs.GuardProgressOwner
import UcxRs.ConnRequestConsumption
import UcxRs.LengthFraming
import UcxRs.RemoteKeyFraming
import UcxRs.StatusPointers
import UcxRs.LockedThreads
import UcxRs.WorkerOperations
import UcxRs.WorkerSerialisation
import UcxRs.TimeoutReports
import UcxRs.MaskedFields
import UcxRs.ParameterBuilders
import UcxRs.BuilderVisibility
import UcxRs.RepeatedBuilds
import UcxRs.MemoryHandles
import UcxRs.AttributeQueries
import UcxRs.QueryReports
import UcxRs.InterruptedPrograms
import UcxRs.HandlerRegistration
import UcxRs.HandlerRetention
import UcxRs.HandleReclamation
import UcxRs.UcxResources
import UcxRs.ResourceBalance
import UcxRs.BufferBorrows
import UcxRs.EndpointClose
import UcxRs.VisibleParameters
import UcxRs.SocketAddresses
import UcxRs.RemoteKeyPacking
import UcxRs.DeliveryStatuses
import UcxRs.ProbedMessages
import UcxRs.SharedCells
import UcxRs.KeyProvenance
import UcxRs.StreamPolling
import UcxRs.ContextCreation
import UcxRs.AtomicFlags
import UcxRs.ProgressGuard
import UcxRs.MutexWaits
import UcxRs.ThreadCompletion
import UcxRs.WorkerCompletion
import UcxRs.LastOwner
import UcxRs.WorkerLifetimes
import UcxRs.BufferExtents
import UcxRs.DescriptorTables
import UcxRs.DiagnosticStreams
import UcxRs.ScopedHandles
import UcxRs.ContextLifetimes
import UcxRs.RequestLifetimes
import UcxRs.DispatchTables
import UcxRs.DispatchRuns
import UcxRs.AtomicSections
import UcxRs.WorkerAtomicity

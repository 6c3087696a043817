import TableWrite.Main
import TableWrite.Pending
import TableWrite.Proofs.AssignedKeys
import TableWrite.Proofs.CacheIdentity
import TableWrite.Proofs.CallDirections
import TableWrite.Proofs.DeletedRows
import TableWrite.Proofs.FailedBuilds
import TableWrite.Proofs.InsertAlignment
import TableWrite.Proofs.InsertCalls
import TableWrite.Proofs.InsertImages
import TableWrite.Proofs.KeyedView
import TableWrite.Proofs.KeylessTables
import TableWrite.Proofs.LeftRequests
import TableWrite.Proofs.NamedFiles
import TableWrite.Proofs.ParameterNames
import TableWrite.Proofs.PartialDocuments
import TableWrite.Proofs.QueryOrder
import TableWrite.Proofs.QueryRebuild
import TableWrite.Proofs.Rebinding
import TableWrite.Proofs.RelevantChanges
import TableWrite.Proofs.ReturnedValues
import TableWrite.Proofs.SameValues
import TableWrite.Proofs.SaveRuns
import TableWrite.Proofs.SeededCache
import TableWrite.Proofs.SeparateLists
import TableWrite.Proofs.StaleRefresh
import TableWrite.Proofs.TableNames
import TableWrite.Proofs.TokenSeams
import TableWrite.Proofs.UnansweredParameters
import TableWrite.Proofs.UnchangedRows
import TableWrite.Proofs.UpdateConditions
import TableWrite.Proofs.UpdateImages
import TableWrite.Proofs.ValueDocuments
import TableWrite.Proofs.WrittenColumns

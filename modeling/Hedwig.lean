import Hedwig.Backends.Inactivity
import Hedwig.Backends.Instrumentation
import Hedwig.Backends.Isolation
import Hedwig.Backends.RedisAtLeastOnce
import Hedwig.Backends.RedisDeadLetter
import Hedwig.Backends.RedisDeliveryBound
import Hedwig.Backends.RedisLoop
import Hedwig.Backends.RedisRequeue
import Hedwig.Backends.Requeue
import Hedwig.Backends.SyncMode
import Hedwig.Signature
import Hedwig.Validators.ContainerFormat
import Hedwig.Validators.Firehose
import Hedwig.Validators.FormatVersion
import Hedwig.Validators.HumanUuid
import Hedwig.Validators.Normalisation
import Hedwig.Validators.TypeConfusion
import Hedwig.Validators.WellFormed
